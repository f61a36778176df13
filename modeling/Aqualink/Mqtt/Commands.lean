import Aqualink.Equipment.Devices
import Aqualink.General.Json
import Aqualink.Hub.Bodies

/-!
# Commands over MQTT

A message on a command topic is parsed as JSON.  If it is no JSON, its text is wrapped in an
object under the key `raw`.  The handler of the command then reads what it needs from the
document and calls the command dispatcher.

A text is a sequence of bytes, each a character here.  Floating-point arithmetic is a parameter:
what the handlers use of it is collected in `DoubleArithmetic`, with the exactness of the whole
numbers of a byte as its law.
-/

namespace AqualinkAutomate.Mqtt

open Equipment General Hub

/-! ## Numbers -/

/-- `double` -/
structure DoubleArithmetic where
  Double : Type
  ofInteger : ℤ → Double
  ofBits : UInt64 → Double
  /-- The whole text is a number. -/
  fromChars : String → Option Double
  isFinite : Double → Bool
  lt : Double → Double → Bool
  le : Double → Double → Bool
  add : Double → Double → Double
  sub : Double → Double → Double
  mul : Double → Double → Double
  div : Double → Double → Double
  round : Double → Double
  llround : Double → ℤ
  /-- `static_cast<uint8_t>` -/
  toByte : Double → UInt8
  isFinite_byte : ∀ n : UInt8, isFinite (ofInteger n.toNat) = true
  lt_byte : ∀ m n : UInt8, lt (ofInteger m.toNat) (ofInteger n.toNat) = decide (m < n)
  le_byte : ∀ m n : UInt8, le (ofInteger m.toNat) (ofInteger n.toNat) = decide (m ≤ n)
  round_byte : ∀ n : UInt8, round (ofInteger n.toNat) = ofInteger n.toNat
  llround_byte : ∀ n : UInt8, llround (ofInteger n.toNat) = n.toNat
  toByte_byte : ∀ n : UInt8, toByte (ofInteger n.toNat) = n

/-- `ToNumber<uint8_t>`: the whole text is digits, and their value fits. -/
def byteOfText (text : String) : Option UInt8 :=
  let value := text.toList.foldl (fun soFar digit => 10 * soFar + (digit.toNat - '0'.toNat)) 0
  if text.toList ≠ [] ∧ text.toList.all Char.isDigit ∧ value ≤ 255 then some (UInt8.ofNat value)
  else none

namespace DoubleArithmetic

variable (doubles : DoubleArithmetic)

def numberOf : Json → Option doubles.Double
  | .integer value => some (doubles.ofInteger value)
  | .float bits => some (doubles.ofBits bits)
  | _ => none

/-- The conversion to `uint8_t` in `ParsePayloadNumber`. -/
def toByteChecked (number : doubles.Double) : Option UInt8 :=
  if !doubles.isFinite number || doubles.lt number (doubles.ofInteger 0) ||
      doubles.lt (doubles.ofInteger 255) number then none
  else some (UInt8.ofInt (doubles.llround number))

/-- The conversion to `double` in `ParsePayloadNumber`: a finite number is in the range. -/
def toDoubleChecked (number : doubles.Double) : Option doubles.Double :=
  if doubles.isFinite number then some number else none

/-- `std::clamp(value, 0.0, 255.0)` -/
def clampToByte (value : doubles.Double) : doubles.Double :=
  if doubles.lt value (doubles.ofInteger 0) then doubles.ofInteger 0
  else if doubles.lt (doubles.ofInteger 255) value then doubles.ofInteger 255
  else value

end DoubleArithmetic

/-! ## Payloads -/

def parsePayloadString (payload : Json) : String :=
  match payload.text? "raw" with
  | some text => text
  | none =>
    match payload with
    | .string text => text
    | _ => ""

/-- `ParsePayloadNumber`, for the type that `ofText` and `ofNumber` convert to. -/
def parsePayloadNumber {α : Type} (doubles : DoubleArithmetic) (ofText : String → Option α)
    (ofNumber : doubles.Double → Option α) (payload : Json) (default : α) : α :=
  match payload.text? "raw" with
  | some text => (ofText text).getD default
  | none =>
    match doubles.numberOf payload with
    | some number => (ofNumber number).getD default
    | none =>
      match payload with
      | .string text => (ofText text).getD default
      | _ => default

def parsePayloadByte (doubles : DoubleArithmetic) (payload : Json) : UInt8 :=
  parsePayloadNumber doubles byteOfText doubles.toByteChecked payload 0

def parsePayloadDouble (doubles : DoubleArithmetic) (payload : Json) : doubles.Double :=
  parsePayloadNumber doubles doubles.fromChars doubles.toDoubleChecked payload (doubles.ofInteger 0)

/-- `payload.value(key, default)`.  Nothing when it throws: the document is no object, or what
is under the key has another type. -/
def payloadValue {α : Type} (convert : Json → Option α) (payload : Json) (key : String)
    (default : α) : Option α :=
  match payload with
  | .object _ =>
    match payload.member key with
    | some value => convert value
    | none => some default
  | _ => none

def textOf : Json → Option String
  | .string text => some text
  | _ => none

/-! ## Handlers -/

inductive TemperatureUnits where
  | celsius | fahrenheit | unknown
  deriving DecidableEq

inductive DispatcherCall where
  | toggleByUuid (uuid : Uuid)
  | toggleByLabel (label : String)
  | commandByLabel (label : String) (action : ActuationAction)
  | setPoolSetpoint (temperature : UInt8)
  | setSpaSetpoint (temperature : UInt8)
  | setChlorinatorPercentage (percentage : UInt8) (body : BodyOfWaterIds)
  | setChlorinatorBoost (enable : Bool)
  | setCirculationMode (mode : CirculationModes)
  | setHeaterMode (heaterBody : BodyOfWaterIds) (enable : Bool)
  deriving DecidableEq

/-- What a handler finds when it runs.  The hubs can be gone. -/
structure Environment where
  doubles : DoubleArithmetic
  hasDispatcher : Bool
  systemTemperatureUnits : Option TemperatureUnits
  temperatureDisplayUnits : Option TemperatureUnits
  parseUuid : String → Option Uuid

section

variable (env : Environment)

def handleDeviceCommand (payload : Json) : List DispatcherCall :=
  if env.hasDispatcher then
    match payloadValue textOf payload "device_id" "",
        payloadValue textOf payload "action" "toggle" with
    | some deviceId, some _ =>
      -- the action is read and echoed, but every action toggles
      if deviceId = "" then []
      else
        match env.parseUuid deviceId with
        | some uuid => [.toggleByUuid uuid]
        | none => [.toggleByLabel deviceId]
    | _, _ => []
  else []

def wireValue (celsius : env.doubles.Double) : env.doubles.Double :=
  if env.systemTemperatureUnits = some .celsius then env.doubles.round celsius
  else
    env.doubles.round (env.doubles.add
      (env.doubles.div (env.doubles.mul celsius (env.doubles.ofInteger 9))
        (env.doubles.ofInteger 5))
      (env.doubles.ofInteger 32))

/-- What is sent of a rounded temperature. -/
def wireSetpoint (value : env.doubles.Double) : UInt8 :=
  env.doubles.toByte
    (if env.doubles.isFinite value then env.doubles.clampToByte value
      else env.doubles.ofInteger 0)

def dispatchSetpoint (target : String) (celsius : env.doubles.Double) : List DispatcherCall :=
  if !env.hasDispatcher then []
  else if target = "pool" then [.setPoolSetpoint (wireSetpoint env (wireValue env celsius))]
  else if target = "spa" then [.setSpaSetpoint (wireSetpoint env (wireValue env celsius))]
  else []

def handleSetpointCommand (payload : Json) : List DispatcherCall :=
  match payloadValue textOf payload "target" "",
      payloadValue env.doubles.numberOf payload "temperature" (env.doubles.ofInteger 0) with
  | some target, some temperature =>
    if target = "" ∨ env.doubles.le temperature (env.doubles.ofInteger 0) then []
    else dispatchSetpoint env target temperature
  | _, _ => []

def displayToCelsius (temperature : env.doubles.Double) : env.doubles.Double :=
  if env.temperatureDisplayUnits = some .fahrenheit then
    env.doubles.div
      (env.doubles.mul (env.doubles.sub temperature (env.doubles.ofInteger 32))
        (env.doubles.ofInteger 5))
      (env.doubles.ofInteger 9)
  else temperature

def handleHaSetpointCommand (target : String) (payload : Json) : List DispatcherCall :=
  let temperature := parsePayloadDouble env.doubles payload
  if env.doubles.lt (env.doubles.ofInteger 0) temperature then
    dispatchSetpoint env target (displayToCelsius env temperature)
  else []

def handleDynamicDeviceCommand (label : String) (payload : Json) : List DispatcherCall :=
  if env.hasDispatcher then
    let action := parsePayloadString payload
    if action = "ON" then [.commandByLabel label .on]
    else if action = "OFF" then [.commandByLabel label .off]
    else []
  else []

def handleHeaterCommand (body : BodyOfWaterIds) (payload : Json) : List DispatcherCall :=
  if env.hasDispatcher then
    let action := parsePayloadString payload
    if action = "ON" then [.setHeaterMode body true]
    else if action = "OFF" then [.setHeaterMode body false]
    else []
  else []

def handlePercentageCommand (body : BodyOfWaterIds) (payload : Json) : List DispatcherCall :=
  if env.hasDispatcher then
    [.setChlorinatorPercentage (parsePayloadByte env.doubles payload) body]
  else []

def handleBoostCommand (payload : Json) : List DispatcherCall :=
  if env.hasDispatcher then [.setChlorinatorBoost (parsePayloadString payload == "ON")] else []

def handleCirculationModeCommand (payload : Json) : List DispatcherCall :=
  if env.hasDispatcher then
    let mode := parsePayloadString payload
    if mode = "pool" ∨ mode = "Pool" then [.setCirculationMode .pool]
    else if mode = "spa" ∨ mode = "Spa" then [.setCirculationMode .spa]
    else if mode = "spillover" ∨ mode = "Spillover" then [.setCirculationMode .spillover]
    else []
  else []

end

/-! ## Registration -/

inductive CommandHandler where
  /-- Publishes, and calls nothing. -/
  | status
  | refresh
  | device
  | setpoint
  | haSetpoint (target : String)
  | dynamicDevice (label : String)
  | heater (label : String) (body : BodyOfWaterIds)
  | percentage (body : BodyOfWaterIds)
  | boost
  | circulationMode
  deriving DecidableEq

def CommandHandler.run (env : Environment) : CommandHandler → Json → List DispatcherCall
  | .status, _ | .refresh, _ => []
  | .device, payload => handleDeviceCommand env payload
  | .setpoint, payload => handleSetpointCommand env payload
  | .haSetpoint target, payload => handleHaSetpointCommand env target payload
  | .dynamicDevice label, payload => handleDynamicDeviceCommand env label payload
  | .heater _ body, payload => handleHeaterCommand env body payload
  | .percentage body, payload => handlePercentageCommand env body payload
  | .boost, payload => handleBoostCommand env payload
  | .circulationMode, payload => handleCirculationModeCommand env payload

def slugStep (result : List Char) (c : Char) : List Char :=
  if c.isAlphanum || c == '_' then result ++ [c.toLower]
  else if c == ' ' || c == '-' || c == '.' then
    if result ≠ [] ∧ result.getLast? ≠ some '_' then result ++ ['_'] else result
  else result

def slugify (input : String) : String :=
  let result := input.toList.foldl slugStep []
  String.ofList (if result.getLast? = some '_' then result.dropLast else result)

abbrev CommandHandlers : Type := List (String × CommandHandler)

namespace CommandHandlers

def handlerOf (handlers : CommandHandlers) (command : String) : Option CommandHandler :=
  (List.find? (fun entry => entry.1 == command) handlers).map Prod.snd

/-- `RegisterCommand` -/
def register (handlers : CommandHandlers) (entry : String × CommandHandler) : CommandHandlers :=
  (handlers.filter fun existing => existing.1 != entry.1) ++ [entry]

/-- `RegisterCommand` unless `HasCommand`. -/
def registerAbsent (handlers : CommandHandlers) (entry : String × CommandHandler) :
    CommandHandlers :=
  insertAbsent (fun existing added => existing.1 == added.1) handlers entry

end CommandHandlers

/-- The steps in which handlers are registered. -/
inductive Registration where
  | defaultCommands
  | deviceCommand
  | setpointCommand
  /-- The labels of the pumps, the chlorinators and the auxiliaries that have one, and the
  heaters that have a label and a body. -/
  | dynamicDeviceCommands (labels : List String) (heaters : List (String × BodyOfWaterIds))

/-- The commands of a step, and whether one that is there already is kept.  A slug that was
claimed in the same step is one that is there. -/
def Registration.entries : Registration → Bool × List (String × CommandHandler)
  | .defaultCommands => (false, [("status", .status), ("refresh", .refresh)])
  | .deviceCommand => (false, [("device", .device)])
  | .setpointCommand =>
    (false, [("setpoint", .setpoint), ("setpoint/pool", .haSetpoint "pool"),
      ("setpoint/spa", .haSetpoint "spa")])
  | .dynamicDeviceCommands labels heaters =>
    (true, labels.map (fun label => ("device/" ++ slugify label, .dynamicDevice label)) ++
      heaters.map (fun heater =>
        ("heater/" ++ slugify heater.1, .heater heater.1 heater.2)) ++
      [("chlorinator/percentage", .percentage .pool),
        ("chlorinator/pool/percentage", .percentage .pool),
        ("chlorinator/spa/percentage", .percentage .spa), ("chlorinator/boost", .boost),
        ("circulation/mode", .circulationMode)])

def Registration.apply (handlers : CommandHandlers) (step : Registration) : CommandHandlers :=
  step.entries.2.foldl
    (if step.entries.1 then CommandHandlers.registerAbsent else CommandHandlers.register) handlers

def registered (steps : List Registration) : CommandHandlers := steps.foldl Registration.apply []

/-! ## Messages -/

inductive ParseFailure where
  /-- `parse_error` -/
  | malformed
  /-- Any other exception, such as a number that does not fit.  It is not caught. -/
  | other

/-- The document of a message; nothing when an exception is not caught. -/
def messagePayload (parse : String → Except ParseFailure Json) (text : String) : Option Json :=
  if text = "" then some .null
  else
    match parse text with
    | .ok json => some json
    | .error .malformed => some (.object [("raw", .string text)])
    | .error .other => none

def handleMessage (env : Environment) (parse : String → Except ParseFailure Json)
    (handlers : CommandHandlers) (command text : String) : List DispatcherCall :=
  match messagePayload parse text, handlers.handlerOf command with
  | some payload, some handler => handler.run env payload
  | _, _ => []

end AqualinkAutomate.Mqtt
