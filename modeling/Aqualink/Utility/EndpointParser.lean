import Aqualink.General.Texts

/-!
# Endpoints

An endpoint is a host and a port, with an optional scheme in front and white space around it.  An
IPv6 address stands in brackets, with a zone behind a percent sign, or without brackets, and then
it has no port.

The parser looks for characters, so for each part of a written endpoint it is enough to say which
characters are not in it; `HostText`, `Ipv6Text`, `ZoneText`, `PortText` and `Surroundings` carry
that as a field.  A port that is not written is the default port (`withDefaultPort_eq`).
-/

namespace AqualinkAutomate.Utility

open General List Option

/-! ## Views -/

/-- `std::string_view::find`: the position of the first occurrence. -/
def find (needle : List Char) : List Char → Option ℕ
  | [] => if needle.isEmpty then some 0 else none
  | c :: rest =>
    if needle.isPrefixOf (c :: rest) then some 0 else (find needle rest).map (· + 1)

/-- `std::string_view::rfind` of a character. -/
def rfind (needle : Char) (text : List Char) : Option ℕ :=
  (find [needle] text.reverse).map fun pos => text.length - 1 - pos

structure EndpointView where
  host : List Char := []
  port : List Char := []
  portNum : Option ℕ := none
  scopeId : List Char := []
  hadBrackets : Bool := false
  deriving DecidableEq

/-- `://` -/
def schemeSeparator : List Char := [':', '/', '/']

/-- Strip `<scheme>://`, with at least one character in front. -/
def stripScheme (text : List Char) : List Char :=
  match find schemeSeparator text with
  | some pos => if pos > 0 then text.drop (pos + 3) else text
  | none => text

def decodeZoneId : List Char → List Char
  | '2' :: '5' :: zone => zone
  | zone => zone

/-- The loop of `parsePortNumber`. -/
def portLoop (v : ℕ) : List Char → Option ℕ
  | [] => some v
  | c :: rest =>
    if c.isDigit then
      let v := v * 10 + (c.toNat - '0'.toNat)
      if v > 65535 then none else portLoop v rest
    else none

def parsePortNumber (text : List Char) : Option ℕ :=
  if text.isEmpty || decide (text.length > 5) then none
  else (portLoop 0 text).filter (· ≠ 0)

/-- `[IPv6[%zone]]:port` -/
def parseBracketed (input : List Char) : EndpointView :=
  match find [']'] input with
  | none => { host := input.drop 1, hadBrackets := true }
  | some rb =>
    let inner := (input.drop 1).take (rb - 1)
    let port := if input[rb + 1]? = some ':' then input.drop (rb + 2) else []
    match find ['%'] inner with
    | some pct =>
      { host := inner.take pct, scopeId := decodeZoneId (inner.drop (pct + 1)), port
        hadBrackets := true }
    | none => { host := inner, port, hadBrackets := true }

/-- A host name or an IPv4 address; an IPv6 address without brackets is not split. -/
def parseUnbracketed (input : List Char) : EndpointView :=
  match rfind ':' input with
  | some lastColon =>
    if (find [':'] (input.take lastColon)).isNone then
      { host := input.take lastColon, port := input.drop (lastColon + 1) }
    else { host := input }
  | none => { host := input }

/-- The two branches. -/
def parseStripped (endpoint : List Char) : EndpointView :=
  if endpoint.head? = some '[' then parseBracketed endpoint else parseUnbracketed endpoint

def withDefaultPort (defaultPort : List Char) (out : EndpointView) : EndpointView :=
  let out :=
    if out.port.isEmpty && !defaultPort.isEmpty then { out with port := defaultPort } else out
  if out.port.isEmpty then out else { out with portNum := parsePortNumber out.port }

def parseEndpointView (input defaultPort : List Char) : EndpointView :=
  let input := trimWhitespace input
  if input.isEmpty then
    if defaultPort.isEmpty then {}
    else { port := defaultPort, portNum := parsePortNumber defaultPort }
  else
    withDefaultPort defaultPort (parseStripped (stripScheme input))

/-! ## Written endpoints -/

structure HostText where
  text : List Char
  ne_nil : text ≠ []
  plain : ∀ c ∈ text, c ≠ ':' ∧ c ≠ '[' ∧ c ≠ ']' ∧ isWhitespace c = false

structure Ipv6Text where
  text : List Char
  plain : ∀ c ∈ text, c ≠ '[' ∧ c ≠ ']' ∧ c ≠ '%' ∧ c ≠ '/' ∧ isWhitespace c = false
  colons : 2 ≤ text.count ':'

structure ZoneText where
  text : List Char
  ne_nil : text ≠ []
  plain : ∀ c ∈ text, c ≠ ']' ∧ c ≠ '/'

structure PortNumber where
  value : ℕ
  pos : 1 ≤ value
  le : value ≤ 65535

def PortNumber.text (port : PortNumber) : List Char := Nat.toDigits 10 port.value

/-- The endpoint has a port text, well-formed or not: behind the colon behind its brackets, or
behind its only colon. -/
inductive HasPort : List Char → List Char → Prop
  | bracketed {inner : List Char} (port : List Char) (hinner : ']' ∉ inner) :
      HasPort ('[' :: inner ++ ']' :: ':' :: port) port
  | unbracketed {host : List Char} (port : List Char) (hhost : ':' ∉ host) (hport : ':' ∉ port)
      (hopen : (host ++ ':' :: port).head? ≠ some '[') : HasPort (host ++ ':' :: port) port

/-- White space and a scheme around an endpoint. -/
structure Surroundings where
  leading : List Char
  scheme : Option (List Char)
  trailing : List Char
  leading_space : ∀ c ∈ leading, isWhitespace c = true
  trailing_space : ∀ c ∈ trailing, isWhitespace c = true
  scheme_plain : ∀ name ∈ scheme, name ≠ [] ∧ ∀ c ∈ name, c ≠ ':' ∧ isWhitespace c = false

def Surroundings.start (around : Surroundings) : List Char :=
  match around.scheme with
  | some name => name ++ schemeSeparator
  | none => []

def Surroundings.write (around : Surroundings) (endpoint : List Char) : List Char :=
  around.leading ++ (around.start ++ endpoint ++ around.trailing)

/-- A bracketed address, with what is behind its percent sign if it has one. -/
def bracketed (address : Ipv6Text) (zone : List Char) : List Char :=
  '[' :: (address.text ++ zone) ++ [']']

/-- The zone behind `%25`. -/
def encodedZone (zone : ZoneText) : List Char := '%' :: '2' :: '5' :: zone.text

def rawZone (zone : ZoneText) : List Char := '%' :: zone.text

/-! ## Searching -/

section

variable {needle front rest text : List Char} {c d : Char}

theorem find_append (hfront : c ∉ front) :
    find (c :: needle) (front ++ rest) =
      (find (c :: needle) rest).map (· + front.length) := by
  induction front with
  | nil => simp
  | cons first front ih =>
    rw [mem_cons, not_or] at hfront
    have hfirst : (c :: needle).isPrefixOf (first :: (front ++ rest)) = false := by
      rw [isPrefixOf, beq_eq_false_iff_ne.mpr hfront.1, Bool.false_and]
    rw [cons_append, find, hfirst, ih hfront.2]
    simp only [Bool.false_eq_true, if_false, Option.map_map, length_cons]
    congr 1

theorem find_append_cons (hfront : c ∉ front) :
    find [c] (front ++ c :: rest) = some front.length := by
  have hhere : find [c] (c :: rest) = some 0 := by
    rw [find, isPrefixOf, beq_self_eq_true]
    rfl
  rw [find_append hfront, hhere, map_some, Nat.zero_add]

theorem find_eq_none (hneedle : d ∈ needle) (htext : d ∉ text) : find needle text = none := by
  induction text with
  | nil =>
    cases needle with
    | nil => cases hneedle
    | cons c needle => rfl
  | cons first text ih =>
    rw [mem_cons, not_or] at htext
    have hfirst : ¬ needle.isPrefixOf (first :: text) := by
      intro hhere
      obtain hd | hd := List.mem_cons.mp ((List.isPrefixOf_iff_prefix.mp hhere).subset hneedle)
      · exact htext.1 hd
      · exact htext.2 hd
    rw [find, if_neg hfirst, ih htext.2]
    rfl

theorem isNone_find_of_mem (h : c ∈ text) : (find [c] text).isNone = false := by
  obtain ⟨front, rest, rfl, hfront⟩ := eq_append_cons_of_mem h
  rw [find_append_cons hfront]
  rfl

/-- The last of a character. -/
theorem rfind_append_cons (hrest : c ∉ rest) :
    rfind c (front ++ c :: rest) = some front.length := by
  have hreverse : (front ++ c :: rest).reverse = rest.reverse ++ c :: front.reverse := by simp
  rw [rfind, hreverse, find_append_cons (by simpa using hrest), map_some,
    length_append, length_cons, length_reverse]
  congr 1
  omega

theorem rfind_eq_none (h : c ∉ text) : rfind c text = none := by
  rw [rfind, find_eq_none mem_cons_self (by simpa using h)]
  rfl

end

/-! ## Surroundings -/

structure Trimmed (text : List Char) : Prop where
  ne_nil : text ≠ []
  first : ∀ c ∈ text.head?, isWhitespace c = false
  last : ∀ c ∈ text.getLast?, isWhitespace c = false

section

variable {leading core trailing endpoint : List Char}

theorem trimWhitespace_around (hcore : Trimmed core)
    (hleading : ∀ c ∈ leading, isWhitespace c)
    (htrailing : ∀ c ∈ trailing, isWhitespace c) :
    trimWhitespace (leading ++ (core ++ trailing)) = core := by
  have hdrop : (leading ++ (core ++ trailing)).dropWhile isWhitespace = core ++ trailing := by
    rw [dropWhile_append_of_pos hleading]
    obtain ⟨c, rest, rfl⟩ := exists_cons_of_ne_nil hcore.ne_nil
    have hc : ¬ isWhitespace c := by
      rw [hcore.first c rfl]
      exact Bool.false_ne_true
    rw [cons_append, dropWhile_cons_of_neg hc]
  rw [trimWhitespace, trimBy, hdrop, rdropWhile, reverse_append,
    dropWhile_append_of_pos (by simpa using htrailing)]
  obtain ⟨init, c, rfl⟩ := eq_nil_or_concat core |>.resolve_left hcore.ne_nil
  rw [concat_eq_append] at hcore ⊢
  have hc : ¬ isWhitespace c := by
    rw [hcore.last c (getLast?_concat ..)]
    exact Bool.false_ne_true
  rw [reverse_append, reverse_singleton, singleton_append,
    dropWhile_cons_of_neg hc, reverse_cons, reverse_reverse]

theorem Trimmed.start_append (around : Surroundings) (h : Trimmed endpoint) :
    Trimmed (around.start ++ endpoint) where
  ne_nil := append_ne_nil_of_right_ne_nil _ h.ne_nil
  first := by
    intro c hc
    cases hscheme : around.scheme with
    | none =>
      rw [Surroundings.start, hscheme] at hc
      exact h.first c hc
    | some name =>
      obtain ⟨hne, hplain⟩ := around.scheme_plain name hscheme
      obtain ⟨first, rest, rfl⟩ := exists_cons_of_ne_nil hne
      rw [Surroundings.start, hscheme] at hc
      obtain rfl := Option.some.inj hc
      exact (hplain first mem_cons_self).2
  last := by
    intro c hc
    rw [getLast?_append_of_ne_nil _ h.ne_nil] at hc
    exact h.last c hc

theorem stripScheme_start (around : Surroundings) (h : find schemeSeparator endpoint = none) :
    stripScheme (around.start ++ endpoint) = endpoint := by
  cases hscheme : around.scheme with
  | none => rw [Surroundings.start, hscheme, nil_append, stripScheme, h]
  | some name =>
    obtain ⟨hne, hplain⟩ := around.scheme_plain name hscheme
    have hcolon : ':' ∉ name := fun hmem => (hplain _ hmem).1 rfl
    have hhere : find schemeSeparator (schemeSeparator ++ endpoint) = some 0 := by
      rw [schemeSeparator, cons_append, find]
      exact if_pos (List.isPrefixOf_iff_prefix.mpr ⟨endpoint, rfl⟩)
    have hfind : find schemeSeparator (name ++ (schemeSeparator ++ endpoint)) =
        some name.length := by
      rw [schemeSeparator, find_append hcolon, ← schemeSeparator, hhere, map_some,
        Nat.zero_add]
    rw [Surroundings.start, hscheme, append_assoc, stripScheme, hfind]
    dsimp only
    rw [if_pos (List.length_pos_iff.mpr hne), ← drop_drop, drop_left]
    rfl

theorem parseEndpointView_write (around : Surroundings) (defaultPort : List Char)
    (htrimmed : Trimmed endpoint) (hplain : find schemeSeparator endpoint = none) :
    parseEndpointView (around.write endpoint) defaultPort =
      withDefaultPort defaultPort (parseStripped endpoint) := by
  have htrim : trimWhitespace (around.write endpoint) = around.start ++ endpoint :=
    trimWhitespace_around (htrimmed.start_append around) around.leading_space
      around.trailing_space
  have hne : (around.start ++ endpoint).isEmpty = false := by
    rw [isEmpty_eq_false_iff]
    exact (htrimmed.start_append around).ne_nil
  rw [parseEndpointView, htrim, hne, stripScheme_start around hplain]
  rfl

end

/-! ## Ports -/

section

theorem le_ofDigitChars (text : List Char) (v : ℕ) : v ≤ Nat.ofDigitChars 10 text v := by
  rw [Nat.ofDigitChars_eq_ofDigitChars_zero]
  calc v ≤ 10 ^ text.length * v := Nat.le_mul_of_pos_left v (Nat.pow_pos (by omega))
    _ ≤ _ := Nat.le_add_right _ _

theorem portLoop_eq_some_iff {text : List Char} {v p : ℕ} (hv : v ≤ 65535) :
    portLoop v text = some p ↔
      (∀ c ∈ text, c.isDigit) ∧ Nat.ofDigitChars 10 text v = p ∧ p ≤ 65535 := by
  induction text generalizing v with
  | nil =>
    rw [portLoop, Nat.ofDigitChars_nil, some_inj]
    constructor
    · rintro rfl
      exact ⟨by simp, rfl, hv⟩
    · exact fun h => h.2.1
  | cons c text ih =>
    rw [Nat.ofDigitChars_cons, Nat.mul_comm, portLoop, forall_mem_cons]
    have hgrows := le_ofDigitChars text (v * 10 + (c.toNat - '0'.toNat))
    split
    next hdigit =>
      dsimp only
      split
      next hlarge =>
        refine ⟨fun h => absurd h (by simp), fun ⟨_, heq, hle⟩ => ?_⟩
        omega
      next hsmall =>
        rw [ih (Nat.le_of_not_lt hsmall), and_iff_right hdigit]
    next hdigit =>
      exact ⟨fun h => absurd h (by simp), fun h => absurd h.1.1 hdigit⟩

theorem parsePortNumber_eq_some_iff {text : List Char} {p : ℕ} :
    parsePortNumber text = some p ↔
      (text ≠ [] ∧ text.length ≤ 5 ∧ ∀ c ∈ text, c.isDigit) ∧
        Nat.ofDigitChars 10 text 0 = p ∧ 1 ≤ p ∧ p ≤ 65535 := by
  unfold parsePortNumber
  split
  next hshort =>
    refine ⟨fun h => absurd h (by simp), fun ⟨⟨hne, hlength, _⟩, _⟩ => ?_⟩
    rw [Bool.or_eq_true, List.isEmpty_iff, decide_eq_true_iff] at hshort
    obtain hnil | hlong := hshort
    · exact absurd hnil hne
    · omega
  next hshort =>
    rw [Bool.or_eq_true, List.isEmpty_iff, decide_eq_true_iff, not_or] at hshort
    rw [filter_eq_some_iff, portLoop_eq_some_iff (Nat.zero_le _), decide_eq_true_iff]
    constructor
    · rintro ⟨⟨hdigits, heq, hle⟩, hne⟩
      exact ⟨⟨hshort.1, Nat.le_of_not_lt hshort.2, hdigits⟩, heq, Nat.one_le_iff_ne_zero.mpr hne,
        hle⟩
    · rintro ⟨⟨-, -, hdigits⟩, heq, hpos, hle⟩
      exact ⟨⟨hdigits, heq, hle⟩, Nat.one_le_iff_ne_zero.mp hpos⟩

theorem parsePortNumber_toDigits {p : ℕ} (hpos : 1 ≤ p) (hle : p ≤ 65535) :
    parsePortNumber (Nat.toDigits 10 p) = some p := by
  refine parsePortNumber_eq_some_iff.mpr ⟨⟨Nat.toDigits_ne_nil, ?_, fun c hc => ?_⟩,
    Nat.ofDigitChars_ten_toDigits, hpos, hle⟩
  · exact (Nat.length_toDigits_le_iff (by omega) (by omega)).mpr (by omega)
  · exact Nat.isDigit_of_mem_toDigits (by omega) (by omega) hc

theorem withDefaultPort_eq (defaultPort : List Char) {out : EndpointView}
    (hnum : out.portNum = none) :
    withDefaultPort defaultPort out =
      { out with
        port := if out.port = [] then defaultPort else out.port
        portNum := parsePortNumber (if out.port = [] then defaultPort else out.port) } := by
  obtain ⟨host, port, portNum, scopeId, hadBrackets⟩ := out
  subst hnum
  cases port with
  | nil =>
    cases defaultPort with
    | nil => rfl
    | cons c rest => rfl
  | cons c rest => rfl

end

/-! ## The parts of an endpoint -/

section

variable {text port inner : List Char}

theorem parseUnbracketed_port (htext : ':' ∉ text) (hport : ':' ∉ port) :
    parseUnbracketed (text ++ ':' :: port) = { host := text, port } := by
  have htake : (text ++ ':' :: port).take text.length = text := take_left
  have hdrop : (text ++ ':' :: port).drop (text.length + 1) = port := by
    rw [← drop_drop, drop_left]
    rfl
  rw [parseUnbracketed, rfind_append_cons hport]
  dsimp only
  rw [htake, hdrop, find_eq_none mem_cons_self htext]
  rfl

theorem parseUnbracketed_host (htext : ':' ∉ text) : parseUnbracketed text = { host := text } := by
  rw [parseUnbracketed, rfind_eq_none htext]

theorem parseUnbracketed_colons (htext : 2 ≤ text.count ':') :
    parseUnbracketed text = { host := text } := by
  have hmem : ':' ∈ text.reverse := by
    rw [mem_reverse, ← count_pos_iff]
    omega
  obtain ⟨back, front, hsplit, hback⟩ := eq_append_cons_of_mem hmem
  have htext' : text = front.reverse ++ ':' :: back.reverse := by
    rw [← reverse_reverse text, hsplit]
    simp
  have hcount : (front.reverse).count ':' + 1 = text.count ':' := by
    have hzero : back.reverse.count ':' = 0 := count_eq_zero_of_not_mem (by simpa using hback)
    rw [htext', count_append, count_cons_self, hzero]
  have hfront : ':' ∈ front.reverse := by
    rw [← count_pos_iff]
    omega
  have hlast : rfind ':' text = some front.reverse.length := by
    rw [htext']
    exact rfind_append_cons (by simpa using hback)
  have htake : text.take front.reverse.length = front.reverse := by
    rw [htext', take_left]
  rw [parseUnbracketed, hlast]
  dsimp only
  rw [htake, isNone_find_of_mem hfront]
  rfl

/-- A port behind the closing bracket needs a colon in front of it. -/
def portBehind (rest : List Char) : List Char :=
  if rest.head? = some ':' then rest.tail else []

theorem parseBracketed_closed (hinner : ']' ∉ inner) (rest : List Char) :
    parseBracketed ('[' :: inner ++ ']' :: rest) =
      match find ['%'] inner with
      | some pct =>
        { host := inner.take pct, scopeId := decodeZoneId (inner.drop (pct + 1))
          port := portBehind rest, hadBrackets := true }
      | none => { host := inner, port := portBehind rest, hadBrackets := true } := by
  have hopen : ']' ∉ '[' :: inner := by
    rw [mem_cons, not_or]
    exact ⟨by decide, hinner⟩
  have hinside :
      (('[' :: inner ++ ']' :: rest).drop 1).take (('[' :: inner).length - 1) = inner := by
    rw [length_cons, Nat.add_sub_cancel]
    exact take_left
  have hbehind : ('[' :: inner ++ ']' :: rest)[('[' :: inner).length + 1]? = rest.head? := by
    rw [getElem?_append_right (by omega), Nat.add_sub_cancel_left, getElem?_cons_succ,
      head?_eq_getElem?]
  have hport : ('[' :: inner ++ ']' :: rest).drop (('[' :: inner).length + 2) = rest.tail := by
    rw [← drop_drop, drop_left, drop_succ_cons, drop_one]
  rw [parseBracketed, find_append_cons hopen]
  dsimp only
  rw [hinside, hbehind, hport, portBehind]

theorem parseBracketed_zone {zone : List Char} (hpercent : '%' ∉ text)
    (hinner : ']' ∉ text ++ '%' :: zone) (rest : List Char) :
    parseBracketed ('[' :: (text ++ '%' :: zone) ++ ']' :: rest) =
      { host := text, scopeId := decodeZoneId zone, port := portBehind rest
        hadBrackets := true } := by
  have htake : (text ++ '%' :: zone).take text.length = text := take_left
  have hdrop : (text ++ '%' :: zone).drop (text.length + 1) = zone := by
    rw [← drop_drop, drop_left]
    rfl
  rw [parseBracketed_closed hinner, find_append_cons hpercent]
  dsimp only
  rw [htake, hdrop]

theorem decodeZoneId_of_not_encoded {zone : List Char} (h : ¬ ['2', '5'] <+: zone) :
    decodeZoneId zone = zone := by
  unfold decodeZoneId
  split
  · exact absurd ⟨_, rfl⟩ h
  · rfl

end

/-! ## The port of an endpoint -/

section

variable {endpoint port : List Char}

theorem portNum_parseStripped (endpoint : List Char) : (parseStripped endpoint).portNum = none := by
  unfold parseStripped
  split
  · unfold parseBracketed
    cases find [']'] endpoint with
    | none => rfl
    | some rb =>
      dsimp only
      cases find ['%'] ((endpoint.drop 1).take (rb - 1)) <;> rfl
  · unfold parseUnbracketed
    cases rfind ':' endpoint with
    | none => rfl
    | some lastColon =>
      dsimp only
      split <;> rfl

theorem HasPort.port_eq (h : HasPort endpoint port) : (parseStripped endpoint).port = port := by
  cases h with
  | @bracketed inner port hinner =>
    have hopen : ('[' :: inner ++ ']' :: ':' :: port).head? = some '[' := rfl
    rw [parseStripped, if_pos hopen, parseBracketed_closed hinner]
    split <;> rfl
  | unbracketed port hhost hport hopen =>
    rw [parseStripped, if_neg hopen, parseUnbracketed_port hhost hport]

theorem port_eq_nil (h : ∀ port, ¬ HasPort endpoint port) : (parseStripped endpoint).port = [] := by
  unfold parseStripped
  split
  next hopen =>
    obtain ⟨text, rfl⟩ : ∃ text, endpoint = '[' :: text := by
      cases endpoint with
      | nil => cases hopen
      | cons c text =>
        cases hopen
        exact ⟨text, rfl⟩
    by_cases hclosed : ']' ∈ text
    · obtain ⟨inner, rest, rfl, hinner⟩ := eq_append_cons_of_mem hclosed
      have hrest : portBehind rest = [] := by
        rw [portBehind]
        split
        · next hcolon =>
          cases rest with
          | nil => cases hcolon
          | cons c port =>
            cases hcolon
            exact absurd (HasPort.bracketed port hinner) (h port)
        · rfl
      have hview := parseBracketed_closed hinner rest
      rw [cons_append] at hview
      rw [hview]
      split <;> exact hrest
    · have hnone : ']' ∉ '[' :: text := by
        rw [mem_cons, not_or]
        exact ⟨by decide, hclosed⟩
      rw [parseBracketed, find_eq_none mem_cons_self hnone]
  next hopen =>
    by_cases hcolon : ':' ∈ endpoint
    · obtain ⟨host, port, rfl, hhost⟩ := eq_append_cons_of_mem hcolon
      by_cases hport : ':' ∈ port
      · have hcount : 2 ≤ (host ++ ':' :: port).count ':' := by
          have hpos := List.count_pos_iff.mpr hport
          rw [count_append, count_cons_self]
          omega
        rw [parseUnbracketed_colons hcount]
      · exact absurd (HasPort.unbracketed port hhost hport hopen) (h port)
    · rw [parseUnbracketed_host hcolon]

end

/-! ## The parser inverts the writers -/

section

variable (around : Surroundings) (defaultPort : List Char)

theorem PortNumber.ne_nil (port : PortNumber) : port.text ≠ [] := Nat.toDigits_ne_nil

theorem PortNumber.isDigit (port : PortNumber) : ∀ c ∈ port.text, c.isDigit :=
  fun _ hc => Nat.isDigit_of_mem_toDigits (by omega) (by omega) hc

theorem ne_of_isDigit {c : Char} (h : c.isDigit) : c ≠ ':' ∧ c ≠ '/' ∧ isWhitespace c = false := by
  refine ⟨?_, ?_, ?_⟩
  · rintro rfl
    exact absurd h (by decide)
  · rintro rfl
    exact absurd h (by decide)
  · rw [isWhitespace, decide_eq_false_iff_not]
    intro hspace
    simp only [mem_cons, not_mem_nil, or_false] at hspace
    obtain rfl | rfl | rfl | rfl | rfl | rfl := hspace <;> exact absurd h (by decide)

theorem Trimmed.port {front : List Char} (port : PortNumber) (hne : front ≠ [])
    (hfront : ∀ c ∈ front.head?, isWhitespace c = false) : Trimmed (front ++ port.text) where
  ne_nil := append_ne_nil_of_left_ne_nil hne _
  first := by
    intro c hc
    rw [head?_append_of_ne_nil _ hne] at hc
    exact hfront c hc
  last := by
    intro c hc
    rw [getLast?_append_of_ne_nil _ port.ne_nil] at hc
    exact (ne_of_isDigit (port.isDigit c (mem_of_getLast? hc))).2.2

theorem withDefaultPort_port (port : PortNumber) {out : EndpointView} (hport : out.port = port.text)
    (hnum : out.portNum = none) :
    withDefaultPort defaultPort out = { out with portNum := some port.value } := by
  rw [withDefaultPort_eq defaultPort hnum, hport, if_neg port.ne_nil, PortNumber.text,
    parsePortNumber_toDigits port.pos port.le, ← PortNumber.text, ← hport]

theorem parse_host_port (host : HostText) (port : PortNumber) :
    parseEndpointView (around.write (host.text ++ ':' :: port.text)) defaultPort =
      { host := host.text, port := port.text, portNum := some port.value } := by
  have hcolon : ':' ∉ host.text := fun hmem => (host.plain _ hmem).1 rfl
  have hport : ':' ∉ port.text := fun hmem => (ne_of_isDigit (port.isDigit _ hmem)).1 rfl
  have hslash : '/' ∉ port.text := fun hmem => (ne_of_isDigit (port.isDigit _ hmem)).2.1 rfl
  have htrimmed : Trimmed (host.text ++ ':' :: port.text) := by
    have hfirst : ∀ c ∈ (host.text ++ [':']).head?, isWhitespace c = false := by
      intro c hc
      rw [head?_append_of_ne_nil _ host.ne_nil] at hc
      exact (host.plain c (mem_of_head? hc)).2.2.2
    have h := Trimmed.port port (append_ne_nil_of_left_ne_nil host.ne_nil [':']) hfirst
    rwa [append_assoc] at h
  have hfind : find schemeSeparator (host.text ++ ':' :: port.text) = none := by
    have hbehind : find schemeSeparator (':' :: port.text) = none := by
      have hhere : ¬ schemeSeparator.isPrefixOf (':' :: port.text) := by
        intro hhere
        obtain ⟨rest, hrest⟩ := List.isPrefixOf_iff_prefix.mp hhere
        refine hslash ?_
        rw [← (List.cons.inj hrest).2]
        exact mem_cons_self
      rw [find, if_neg hhere, find_eq_none (d := '/') (by decide) hslash]
      rfl
    rw [schemeSeparator, find_append hcolon, ← schemeSeparator, hbehind]
    rfl
  have hopen : (host.text ++ ':' :: port.text).head? ≠ some '[' := by
    rw [head?_append_of_ne_nil _ host.ne_nil]
    intro hc
    exact (host.plain _ (mem_of_head? hc)).2.1 rfl
  rw [parseEndpointView_write around defaultPort htrimmed hfind, parseStripped, if_neg hopen,
    parseUnbracketed_port hcolon hport]
  exact withDefaultPort_port defaultPort port rfl rfl

theorem parse_zone_port (address : Ipv6Text) {zone : List Char} (port : PortNumber)
    (hzone : ∀ c ∈ zone, c ≠ ']' ∧ c ≠ '/') :
    parseEndpointView (around.write (bracketed address ('%' :: zone) ++ ':' :: port.text))
        defaultPort =
      { host := address.text, port := port.text, portNum := some port.value
        scopeId := decodeZoneId zone, hadBrackets := true } := by
  have hpercent : '%' ∉ address.text := fun hmem => (address.plain _ hmem).2.2.1 rfl
  have hinner : ']' ∉ address.text ++ '%' :: zone := by
    simp only [mem_append, mem_cons, not_or]
    exact ⟨fun hmem => (address.plain _ hmem).2.1 rfl, by decide, fun hmem => (hzone _ hmem).1 rfl⟩
  have hslash : '/' ∉ bracketed address ('%' :: zone) ++ ':' :: port.text := by
    simp only [bracketed, mem_append, mem_cons, cons_append, not_mem_nil, not_or, or_false]
    exact ⟨by decide, ⟨⟨fun hmem => (address.plain _ hmem).2.2.2.1 rfl, by decide,
      fun hmem => (hzone _ hmem).2 rfl⟩, by decide⟩, by decide,
      fun hmem => (ne_of_isDigit (port.isDigit _ hmem)).2.1 rfl⟩
  have htrimmed : Trimmed (bracketed address ('%' :: zone) ++ ':' :: port.text) := by
    have hfirst : ∀ c ∈ (bracketed address ('%' :: zone) ++ [':']).head?,
        isWhitespace c = false := by
      intro c hc
      cases hc
      decide
    have h := Trimmed.port port (by simp [bracketed]) hfirst
    rwa [append_assoc] at h
  have hopen : (bracketed address ('%' :: zone) ++ ':' :: port.text).head? = some '[' := rfl
  have hview := parseBracketed_zone hpercent hinner (':' :: port.text)
  rw [parseEndpointView_write around defaultPort htrimmed
    (find_eq_none (d := '/') (by decide) hslash), parseStripped, if_pos hopen, bracketed,
    append_assoc, singleton_append, hview]
  exact withDefaultPort_port defaultPort port rfl rfl

theorem parse_unbracketed (address : Ipv6Text) :
    parseEndpointView (around.write address.text) defaultPort =
      { host := address.text, port := defaultPort
        portNum := parsePortNumber defaultPort } := by
  have hslash : '/' ∉ address.text := fun hmem => (address.plain _ hmem).2.2.2.1 rfl
  have htrimmed : Trimmed address.text :=
    { ne_nil := by
        intro hnil
        have hcolons := address.colons
        rw [hnil, count_nil] at hcolons
        omega
      first := fun c hc => (address.plain c (mem_of_head? hc)).2.2.2.2
      last := fun c hc => (address.plain c (mem_of_getLast? hc)).2.2.2.2 }
  have hopen : ¬ address.text.head? = some '[' :=
    fun hc => (address.plain _ (mem_of_head? hc)).1 rfl
  rw [parseEndpointView_write around defaultPort htrimmed
    (find_eq_none (d := '/') (by decide) hslash), parseStripped, if_neg hopen,
    parseUnbracketed_colons address.colons, withDefaultPort_eq defaultPort rfl, if_pos rfl]

theorem parse_defaultPort (input : List Char) :
    (∀ port, HasPort (stripScheme (trimWhitespace input)) port → port ≠ [] →
        (parseEndpointView input defaultPort).port = port ∧
          (parseEndpointView input defaultPort).portNum = parsePortNumber port) ∧
      ((∀ port, HasPort (stripScheme (trimWhitespace input)) port → port = []) →
        (parseEndpointView input defaultPort).port = defaultPort ∧
          (parseEndpointView input defaultPort).portNum = parsePortNumber defaultPort) := by
  cases hinput : trimWhitespace input with
  | nil =>
    have hnone : ∀ port, ¬ HasPort (stripScheme []) port := by
      intro port hport
      generalize hendpoint : stripScheme [] = endpoint at hport
      have hnil : endpoint = [] := hendpoint.symm
      cases hport with
      | bracketed => cases hnil
      | unbracketed => exact absurd hnil (by simp)
    rw [parseEndpointView, hinput]
    refine ⟨fun port hport => absurd hport (hnone port), fun _ => ?_⟩
    cases defaultPort with
    | nil => exact ⟨rfl, rfl⟩
    | cons c rest => exact ⟨rfl, rfl⟩
  | cons c rest =>
    have hview : parseEndpointView input defaultPort =
        withDefaultPort defaultPort (parseStripped (stripScheme (c :: rest))) := by
      rw [parseEndpointView, hinput]
      rfl
    rw [hview, withDefaultPort_eq defaultPort (portNum_parseStripped _)]
    constructor
    · intro port hport hne
      rw [hport.port_eq, if_neg hne]
      exact ⟨rfl, rfl⟩
    · intro hempty
      have hnil : (parseStripped (stripScheme (c :: rest))).port = [] := by
        by_cases hport : ∃ port, HasPort (stripScheme (c :: rest)) port
        · obtain ⟨port, hport⟩ := hport
          rw [hport.port_eq, hempty port hport]
        · exact port_eq_nil (not_exists.mp hport)
      rw [if_pos hnil]
      exact ⟨rfl, rfl⟩

end

/-- The parser inverts the writing of hosts, addresses, zones and ports; an address without brackets
is not split; and the default port stands for a port text that is not there, and for no other. -/
theorem parseEndpointView_inverts :
    (∀ (around : Surroundings) (defaultPort : List Char) (host : HostText) (port : PortNumber),
      parseEndpointView (around.write (host.text ++ ':' :: port.text)) defaultPort =
        { host := host.text, port := port.text, portNum := some port.value }) ∧
    (∀ (around : Surroundings) (defaultPort : List Char) (address : Ipv6Text) (zone : ZoneText)
      (port : PortNumber),
      parseEndpointView (around.write (bracketed address (encodedZone zone) ++ ':' :: port.text))
          defaultPort =
        { host := address.text, port := port.text, portNum := some port.value
          scopeId := zone.text, hadBrackets := true }) ∧
    (∀ (around : Surroundings) (defaultPort : List Char) (address : Ipv6Text) (zone : ZoneText)
      (port : PortNumber), ¬ ['2', '5'] <+: zone.text →
      parseEndpointView (around.write (bracketed address (rawZone zone) ++ ':' :: port.text))
          defaultPort =
        { host := address.text, port := port.text, portNum := some port.value
          scopeId := zone.text, hadBrackets := true }) ∧
    (∀ (around : Surroundings) (defaultPort : List Char) (address : Ipv6Text),
      parseEndpointView (around.write address.text) defaultPort =
        { host := address.text, port := defaultPort
          portNum := parsePortNumber defaultPort }) ∧
    ∀ input defaultPort : List Char,
      (∀ port, HasPort (stripScheme (trimWhitespace input)) port → port ≠ [] →
        (parseEndpointView input defaultPort).port = port ∧
          (parseEndpointView input defaultPort).portNum = parsePortNumber port) ∧
      ((∀ port, HasPort (stripScheme (trimWhitespace input)) port → port = []) →
        (parseEndpointView input defaultPort).port = defaultPort ∧
          (parseEndpointView input defaultPort).portNum = parsePortNumber defaultPort) := by
  refine ⟨fun around defaultPort host port => parse_host_port around defaultPort host port,
    fun around defaultPort address zone port => ?_,
    fun around defaultPort address zone port hzone => ?_,
    fun around defaultPort address => parse_unbracketed around defaultPort address,
    fun input defaultPort => parse_defaultPort defaultPort input⟩
  · have hplain : ∀ c ∈ '2' :: '5' :: zone.text, c ≠ ']' ∧ c ≠ '/' := by
      intro c hc
      obtain rfl | rfl | hc := by simpa only [mem_cons] using hc
      · decide
      · decide
      · exact zone.plain c hc
    exact parse_zone_port around defaultPort address port hplain
  · have hview := parse_zone_port around defaultPort address port zone.plain
    rwa [decodeZoneId_of_not_encoded hzone] at hview

/-- A link-local address on an interface, with a scheme and white space around it. -/
theorem parseEndpointView_linkLocal :
    ∃ (around : Surroundings) (address : Ipv6Text) (zone : ZoneText) (port : PortNumber),
      around.write (bracketed address (rawZone zone) ++ ':' :: port.text) =
          " udp://[fe80::1%eth0]:5353\n".toList ∧
        parseEndpointView " udp://[fe80::1%eth0]:5353\n".toList [] =
          { host := "fe80::1".toList, port := "5353".toList, portNum := some 5353
            scopeId := "eth0".toList, hadBrackets := true } := by
  let around : Surroundings :=
    { leading := [' '], scheme := some "udp".toList, trailing := ['\n']
      leading_space := by simp [isWhitespace], trailing_space := by simp [isWhitespace]
      scheme_plain := by simp [isWhitespace] }
  let address : Ipv6Text := ⟨"fe80::1".toList, by simp [isWhitespace], by decide⟩
  let zone : ZoneText := ⟨"eth0".toList, by decide, by simp⟩
  let port : PortNumber := ⟨5353, by decide, by decide⟩
  have hwrite : around.write (bracketed address (rawZone zone) ++ ':' :: port.text) =
      " udp://[fe80::1%eth0]:5353\n".toList := by decide
  refine ⟨around, address, zone, port, hwrite, ?_⟩
  have hview := parseEndpointView_inverts.2.2.1 around [] address zone port (by decide)
  rw [hwrite] at hview
  rw [hview]
  decide

end AqualinkAutomate.Utility
