import Aqualink.Auth.SessionStore

/-!
# The devices

The auxiliary devices that the data hub knows, in the order in which they were added.  A
device has a UUID that it keeps, and may have a label, which the user can change.  Labels
are compared to the letter, and nothing keeps two devices from having the same one.

A Jandy auxiliary can also be named by its hardware id in any spelling ("Aux5", "Aux B1",
"ExtraAux"), and its UUID is derived from that id.  The derivation, a name-based SHA-1
UUID, is a parameter.
-/

namespace AqualinkAutomate.Equipment

open Auth

/-! ## Identities -/

/-- The bytes of a UUID. -/
abbrev Uuid : Type := Vector UInt8 16

open List

/-- The canonical text, in groups of 8, 4, 4, 4 and 12 hex digits. -/
def Uuid.toText (uuid : Uuid) : String :=
  let bytes := uuid.toList
  hex (bytes.take 4) ++ "-" ++ hex ((bytes.drop 4).take 2) ++ "-" ++ hex ((bytes.drop 6).take 2) ++
    "-" ++ hex ((bytes.drop 8).take 2) ++ "-" ++ hex (bytes.drop 10)

theorem dash_not_mem_byteHex (byte : UInt8) : '-' ∉ byteHex byte := by
  have hall : ∀ n : Fin 256, '-' ∉ byteHex (UInt8.ofNat n) := by decide +kernel
  have hbyte := hall ⟨byte.toNat, byte.toNat_lt⟩
  simpa using hbyte

theorem toList_hex (bytes : List UInt8) : (hex bytes).toList = bytes.flatMap byteHex :=
  String.toList_ofList

theorem filter_dash_hex (bytes : List UInt8) :
    (hex bytes).toList.filter (· != '-') = (hex bytes).toList := by
  rw [filter_eq_self]
  intro ch hch
  rw [toList_hex, mem_flatMap] at hch
  obtain ⟨byte, -, hdigit⟩ := hch
  rw [bne_iff_ne]
  rintro rfl
  exact dash_not_mem_byteHex byte hdigit

theorem Uuid.filter_dash_toText (uuid : Uuid) :
    uuid.toText.toList.filter (· != '-') = (hex uuid.toList).toList := by
  have hgroups : uuid.toList = uuid.toList.take 4 ++ ((uuid.toList.drop 4).take 2 ++
      ((uuid.toList.drop 6).take 2 ++ ((uuid.toList.drop 8).take 2 ++ uuid.toList.drop 10))) := by
    calc uuid.toList = uuid.toList.take 4 ++ uuid.toList.drop 4 := (take_append_drop 4 _).symm
      _ = _ := by
        rw [← take_append_drop 2 (uuid.toList.drop 4), drop_drop,
          ← take_append_drop 2 (uuid.toList.drop 6), drop_drop,
          ← take_append_drop 2 (uuid.toList.drop 8), drop_drop]
        simp
  have htext : uuid.toText.toList.filter (· != '-') =
      (hex (uuid.toList.take 4)).toList ++ ((hex ((uuid.toList.drop 4).take 2)).toList ++
        ((hex ((uuid.toList.drop 6).take 2)).toList ++
          ((hex ((uuid.toList.drop 8).take 2)).toList ++
            (hex (uuid.toList.drop 10)).toList))) := by
    simp [toText, String.toList_append, filter_append, filter_dash_hex]
  rw [htext]
  simp only [toList_hex, ← flatMap_append]
  rw [← hgroups]

theorem Uuid.toText_injective : Function.Injective Uuid.toText := by
  intro first second h
  have hhex : (hex first.toList).toList = (hex second.toList).toList := by
    rw [← first.filter_dash_toText, h, second.filter_dash_toText]
  exact Vector.toList_inj.mp (hex_injective (String.toList_inj.mp hhex))

theorem Uuid.dash_mem_toText (uuid : Uuid) : '-' ∈ uuid.toText.toList := by
  simp [toText]

/-! ## Jandy auxiliaries -/

/-- The auxiliaries of a panel, in the order of their values from 0. -/
inductive JandyAuxillaryIds where
  | extraAux
  | aux1 | aux2 | aux3 | aux4 | aux5 | aux6 | aux7
  | auxB1 | auxB2 | auxB3 | auxB4 | auxB5 | auxB6 | auxB7 | auxB8
  | auxC1 | auxC2 | auxC3 | auxC4 | auxC5 | auxC6 | auxC7 | auxC8
  | auxD1 | auxD2 | auxD3 | auxD4 | auxD5 | auxD6 | auxD7 | auxD8
  deriving DecidableEq

namespace JandyAuxillaryIds

def all : List JandyAuxillaryIds :=
  [extraAux, aux1, aux2, aux3, aux4, aux5, aux6, aux7,
    auxB1, auxB2, auxB3, auxB4, auxB5, auxB6, auxB7, auxB8,
    auxC1, auxC2, auxC3, auxC4, auxC5, auxC6, auxC7, auxC8,
    auxD1, auxD2, auxD3, auxD4, auxD5, auxD6, auxD7, auxD8]

def value (id : JandyAuxillaryIds) : ℕ := all.idxOf id

def enumCast (value : ℕ) : Option JandyAuxillaryIds := all[value]?

end JandyAuxillaryIds

def bankValue (bank : Char) (number : ℕ) : Option ℕ :=
  match bank with
  | 'A' => if number < 1 ∨ number > 7 then none else some (0x01 + (number - 1))
  | 'B' => if number < 1 ∨ number > 8 then none else some (0x08 + (number - 1))
  | 'C' => if number < 1 ∨ number > 8 then none else some (0x10 + (number - 1))
  | 'D' => if number < 1 ∨ number > 8 then none else some (0x18 + (number - 1))
  | _ => none

def isSpace (c : Char) : Bool := decide (c ∈ [' ', '\t', '\n', '\x0b', '\x0c', '\r'])

/-- One pass of the loop of `NormaliseWhitespace`: the text so far, and whether a space
is pending. -/
def normaliseChar (soFar : List Char × Bool) (c : Char) : List Char × Bool :=
  if isSpace c then
    (soFar.1, !soFar.1.isEmpty)
  else if soFar.2 then
    (soFar.1 ++ [' ', c], false)
  else
    (soFar.1 ++ [c], false)

/-- Trim, and collapse the runs of whitespace to one space. -/
def normaliseWhitespace (raw : List Char) : List Char := (raw.foldl normaliseChar ([], false)).1

def dropSpace : List Char → List Char
  | ' ' :: rest => rest
  | rest => rest

def splitBank (rest : List Char) : Char × List Char :=
  match rest with
  | front :: tail =>
    let upper := front.toUpper
    if upper = 'B' ∨ upper = 'C' ∨ upper = 'D' then (upper, dropSpace tail) else ('A', rest)
  | [] => ('A', rest)

def parseAuxId (label : String) : Option JandyAuxillaryIds :=
  let s := normaliseWhitespace label.toList
  if s.filter (· != ' ') = "ExtraAux".toList then
    some .extraAux
  else if "Aux".toList.isPrefixOf s then
    let (bank, rest) := splitBank (dropSpace (s.drop 3))
    match rest with
    | [digit] =>
      if digit.isDigit then
        (bankValue bank (digit.toNat - '0'.toNat)).bind JandyAuxillaryIds.enumCast
      else
        none
    | _ => none
  else
    none

def auxNativeKey (id : JandyAuxillaryIds) : String := "jandy:aux:" ++ toString id.value

/-! ## The graph of the devices -/

structure AuxillaryDevice where
  id : Uuid
  label : Option String
  deriving DecidableEq

/-- The devices in the order of the vertices; the root, which has none, is left out. -/
structure DevicesGraph where
  devices : List AuxillaryDevice
  deriving DecidableEq

namespace DevicesGraph

def findById (graph : DevicesGraph) (id : Uuid) : Option AuxillaryDevice :=
  graph.devices.find? fun device => device.id == id

def findByLabel (graph : DevicesGraph) (label : String) : List AuxillaryDevice :=
  graph.devices.filter fun device => device.label == some label

end DevicesGraph

/-- The device that a command by label is for: the first one of the label or else, the
label being a spelling of a hardware id, the auxiliary of that id. -/
def deviceForLabel (deriveStableUuid : String → Uuid) (graph : DevicesGraph) (label : String) :
    Option AuxillaryDevice :=
  match graph.findByLabel label with
  | device :: _ => some device
  | [] =>
    (parseAuxId label).bind fun auxId =>
      graph.findById (deriveStableUuid (auxNativeKey auxId))

end AqualinkAutomate.Equipment
