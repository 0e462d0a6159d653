import IssueBoard.Proofs.Text.Digits
import IssueBoard.Text.Percent
import Mathlib.Logic.Function.Basic
import Mathlib.Tactic.SplitIfs

/-! # Percent encoding is lossless and safe

An address component holds plain characters and escaped bytes only, and it is read back as the text that
it was made from. The scripts of web pages encode components by the UTF-16 code units of a text; on every
text they come to the same component.
-/

namespace IssueBoard.Text.Percent

/-! ## Plain characters -/

/-- The characters that stand for themselves in an address component. -/
def plainCharacters : List Char :=
  "ABCDEFGHIJKLMNOPQRSTUVWXYZabcdefghijklmnopqrstuvwxyz0123456789-_.!~*\x27()".toList

theorem toNat_lt_of_plain {c : Char} (plain : c ∈ plainCharacters) : c.toNat < 128 := by
  have all : plainCharacters.all (fun c => decide (c.toNat < 128)) = true := by decide +kernel
  exact of_decide_eq_true (List.all_eq_true.mp all c plain)

theorem toNat_lt_of_isUnreserved {c : Char} (unreserved : isUnreserved c = true) : c.toNat < 128 := by
  rw [isUnreserved, Bool.or_eq_true, List.contains_iff_mem] at unreserved
  rcases unreserved with alphanumeric | mark
  · delta Char.isAlphanum Char.isAlpha Char.isUpper Char.isLower Char.isDigit at alphanumeric
    simp only [ge_iff_le, Bool.or_eq_true, Bool.and_eq_true, decide_eq_true_eq,
      UInt32.le_iff_toNat_le] at alphanumeric
    rcases alphanumeric with (⟨-, upper⟩ | ⟨-, lower⟩) | ⟨-, digit⟩
    · exact Nat.lt_of_le_of_lt upper (by decide)
    · exact Nat.lt_of_le_of_lt lower (by decide)
    · exact Nat.lt_of_le_of_lt digit (by decide)
  · have marks : "-_.!~*\x27()".toList.all (fun c => decide (c.toNat < 128)) = true := by decide
    exact of_decide_eq_true (List.all_eq_true.mp marks c mark)

theorem isUnreserved_iff {c : Char} : isUnreserved c = true ↔ c ∈ plainCharacters := by
  have low : ∀ n < 128, isUnreserved (Char.ofNat n) = true ↔ Char.ofNat n ∈ plainCharacters := by
    decide +kernel
  by_cases small : c.toNat < 128
  · have same := low c.toNat small
    rwa [Char.ofNat_toNat] at same
  · constructor
    · intro unreserved
      exact absurd (toNat_lt_of_isUnreserved unreserved) small
    · intro member
      exact absurd (toNat_lt_of_plain member) small

theorem encodeChar_of_plain {c : Char} (plain : c ∈ plainCharacters) : encodeChar c = [c] := by
  rw [encodeChar, if_pos (isUnreserved_iff.mpr plain)]

theorem encodeChar_of_not_plain {c : Char} (reserved : c ∉ plainCharacters) :
    encodeChar c = (bytesOf c).flatMap escape := by
  rw [encodeChar, if_neg (isUnreserved_iff.not.mpr reserved)]

/-! ## Escapes -/

/-- The digits of an escape. -/
def escapeDigits : List Char := "0123456789ABCDEF".toList

theorem escape_eq (byte : UInt8) :
    escape byte = ['%', hexDigit true (byte.toNat / 16 % 16), hexDigit true (byte.toNat % 16)] := rfl

theorem hexDigit_mem_escapeDigits : ∀ value < 16, hexDigit true value ∈ escapeDigits := by decide

/-- The form of an address component: plain characters, and percent signs with two digits each. -/
inductive IsComponent : List Char → Prop
  | nil : IsComponent []
  | plain {c : Char} {rest : List Char} (here : c ∈ plainCharacters) (behind : IsComponent rest) :
    IsComponent (c :: rest)
  | escaped {high low : Char} {rest : List Char} (first : high ∈ escapeDigits)
    (second : low ∈ escapeDigits) (behind : IsComponent rest) :
    IsComponent ('%' :: high :: low :: rest)

theorem isComponent_escapes (bytes : List UInt8) {rest : List Char} (behind : IsComponent rest) :
    IsComponent (bytes.flatMap escape ++ rest) := by
  induction bytes with
  | nil => exact behind
  | cons byte bytes ih =>
    rw [List.flatMap_cons, escape_eq, List.append_assoc]
    apply IsComponent.escaped
    · exact hexDigit_mem_escapeDigits _ (Nat.mod_lt _ (by decide))
    · exact hexDigit_mem_escapeDigits _ (Nat.mod_lt _ (by decide))
    · exact ih

theorem isComponent_encodeChar (c : Char) {rest : List Char} (behind : IsComponent rest) :
    IsComponent (encodeChar c ++ rest) := by
  by_cases plain : c ∈ plainCharacters
  · rw [encodeChar_of_plain plain]
    exact .plain plain behind
  · rw [encodeChar_of_not_plain plain]
    exact isComponent_escapes (bytesOf c) behind

theorem isComponent_flatMap (cs : List Char) : IsComponent (cs.flatMap encodeChar) := by
  induction cs with
  | nil => exact .nil
  | cons c cs ih =>
    rw [List.flatMap_cons]
    exact isComponent_encodeChar c ih

/-! ## Decoding -/

theorem decodeBytes_escape (byte : UInt8) (rest : List Char) :
    decodeBytes (escape byte ++ rest) = (decodeBytes rest).map (byte :: ·) := by
  have number : hexNumber? [hexDigit true (byte.toNat / 16 % 16), hexDigit true (byte.toNat % 16)] =
      some (byte.toNat % 16 ^ 2) := hexNumber?_hexDigits true 2 byte.toNat
  have small : byte.toNat < 16 ^ 2 := byte.toNat_lt
  have whole : UInt8.ofNat (byte.toNat % 16 ^ 2) = byte := by
    rw [Nat.mod_eq_of_lt small, UInt8.ofNat_toNat]
  rw [escape_eq]
  simp only [List.cons_append, List.nil_append, decodeBytes, number, Option.bind_eq_bind, Option.bind_some,
    whole]
  cases decodeBytes rest <;> rfl

theorem decodeBytes_escapes (bytes : List UInt8) (rest : List Char) :
    decodeBytes (bytes.flatMap escape ++ rest) = (decodeBytes rest).map (bytes ++ ·) := by
  induction bytes with
  | nil => simp
  | cons byte bytes ih =>
    rw [List.flatMap_cons, List.append_assoc, decodeBytes_escape, ih, Option.map_map]
    rfl

theorem decodeBytes_cons {c : Char} (other : c ≠ '%') (rest : List Char) :
    decodeBytes (c :: rest) = (decodeBytes rest).map (bytesOf c ++ ·) := by
  rw [decodeBytes]
  · cases decodeBytes rest <;> rfl
  · intro high low behind percent
    exact absurd percent other
  · intro percent
    exact absurd percent other

theorem decodeBytes_encodeChar (c : Char) (rest : List Char) :
    decodeBytes (encodeChar c ++ rest) = (decodeBytes rest).map (bytesOf c ++ ·) := by
  by_cases plain : c ∈ plainCharacters
  · rw [encodeChar_of_plain plain]
    apply decodeBytes_cons
    rintro rfl
    exact absurd plain (by decide)
  · rw [encodeChar_of_not_plain plain]
    exact decodeBytes_escapes (bytesOf c) rest

/-- The bytes of a component are those of the text that it was made from. -/
theorem decodeBytes_flatMap (cs : List Char) :
    decodeBytes (cs.flatMap encodeChar) = some (cs.flatMap bytesOf) := by
  induction cs with
  | nil => rfl
  | cons c cs ih => rw [List.flatMap_cons, decodeBytes_encodeChar, ih, Option.map_some, List.flatMap_cons]

/-- The UTF-8 bytes of a text are read as the text. -/
theorem fromUTF8?_bytes (s : String) : String.fromUTF8? ⟨(s.toList.flatMap bytesOf).toArray⟩ = some s := by
  have bytes : (⟨(s.toList.flatMap bytesOf).toArray⟩ : ByteArray) = s.toByteArray := by
    rw [← String.utf8Encode_toList, List.utf8Encode]
    apply ByteArray.ext
    rw [List.data_toByteArray]
    rfl
  rw [bytes, String.fromUTF8?, dif_pos s.isValidUTF8]
  rfl

/-- A component is read back as the text that it was made from. -/
theorem decode_encode (s : String) : decode (encode s) = some s := by
  rw [decode, encode, String.toList_ofList, decodeBytes_flatMap]
  exact fromUTF8?_bytes s

theorem encode_append (s t : String) : encode (s ++ t) = encode s ++ encode t := by
  simp only [encode, String.toList_append, List.flatMap_append, String.ofList_append]

/-! ## Code units -/

/-- The UTF-16 code units of a character. -/
def codeUnits (c : Char) : List Nat :=
  if c.toNat < 0x10000 then [c.toNat]
  else [0xD800 + (c.toNat - 0x10000) / 0x400, 0xDC00 + (c.toNat - 0x10000) % 0x400]

/-- The octets of a code point in UTF-8. -/
def octets (code : Nat) : List Nat :=
  if code < 0x80 then [code]
  else if code < 0x800 then [0xC0 + code / 0x40, 0x80 + code % 0x40]
  else if code < 0x10000 then [0xE0 + code / 0x1000, 0x80 + code / 0x40 % 0x40, 0x80 + code % 0x40]
  else [0xF0 + code / 0x40000, 0x80 + code / 0x1000 % 0x40, 0x80 + code / 0x40 % 0x40, 0x80 + code % 0x40]

/-- An octet as a percent sign and two digits. -/
def percentOctet (octet : Nat) : List Char :=
  ['%', escapeDigits.getD (octet / 16) '0', escapeDigits.getD (octet % 16) '0']

/-- A code point as the octets that it is escaped by. -/
def percentCode (code : Nat) : List Char := (octets code).flatMap percentOctet

/-- Encodes a component by its code units, as the scripts of web pages do: plain characters stand for
themselves, and a leading surrogate has to be followed by a trailing one. -/
def encodeUnits : List Nat → Option (List Char)
  | [] => some []
  | unit :: rest =>
    if unit ∈ plainCharacters.map Char.toNat then (encodeUnits rest).map (Char.ofNat unit :: ·)
    else if 0xD800 ≤ unit ∧ unit < 0xDC00 then
      match rest with
      | [] => none
      | low :: rest =>
        if 0xDC00 ≤ low ∧ low < 0xE000 then
          (encodeUnits rest).map
            (percentCode (0x10000 + (unit - 0xD800) * 0x400 + (low - 0xDC00)) ++ ·)
        else none
    else if 0xDC00 ≤ unit ∧ unit < 0xE000 then none
    else (encodeUnits rest).map (percentCode unit ++ ·)

theorem percentOctet_toNat (byte : UInt8) : percentOctet byte.toNat = escape byte := by
  have digits : ∀ value < 16, escapeDigits.getD value '0' = hexDigit true value := by decide
  have bound := byte.toNat_lt
  have high : byte.toNat / 16 < 16 := by omega
  rw [percentOctet, escape_eq, digits _ high, digits _ (by omega), Nat.mod_eq_of_lt high]

theorem toNat_lt (c : Char) : c.toNat < 0x110000 := by
  rcases c.valid with low | ⟨-, high⟩
  · exact Nat.lt_trans low (by decide)
  · exact high

theorem map_toNat_bytesOf (c : Char) : (bytesOf c).map UInt8.toNat = octets c.toNat := by
  have bound := toNat_lt c
  have code : c.val.toNat = c.toNat := rfl
  simp only [bytesOf, String.utf8EncodeChar, octets, code]
  split_ifs
  all_goals
    simp only [List.map_cons, List.map_nil, UInt8.toNat_ofNat', List.cons.injEq, and_true]
    omega

theorem flatMap_escape_bytesOf (c : Char) : (bytesOf c).flatMap escape = percentCode c.toNat := by
  rw [percentCode, ← map_toNat_bytesOf, List.flatMap_map]
  simp only [percentOctet_toNat]

theorem toNat_mem_plain_iff {c : Char} :
    c.toNat ∈ plainCharacters.map Char.toNat ↔ c ∈ plainCharacters := by
  constructor
  · intro member
    obtain ⟨other, plain, same⟩ := List.mem_map.mp member
    rwa [Char.toNat_inj.mp same] at plain
  · intro plain
    exact List.mem_map_of_mem plain

theorem encodeUnits_of_plain {unit : Nat} (plain : unit ∈ plainCharacters.map Char.toNat)
    (rest : List Nat) :
    encodeUnits (unit :: rest) = (encodeUnits rest).map (Char.ofNat unit :: ·) := by
  rw [encodeUnits.eq_def]
  exact if_pos plain

theorem encodeUnits_of_pair {high low : Nat} (reserved : high ∉ plainCharacters.map Char.toNat)
    (leading : 0xD800 ≤ high ∧ high < 0xDC00) (trailing : 0xDC00 ≤ low ∧ low < 0xE000) (rest : List Nat) :
    encodeUnits (high :: low :: rest) =
      (encodeUnits rest).map (percentCode (0x10000 + (high - 0xD800) * 0x400 + (low - 0xDC00)) ++ ·) := by
  rw [encodeUnits.eq_def]
  simp only
  rw [if_neg reserved, if_pos leading, if_pos trailing]

theorem encodeUnits_of_single {unit : Nat} (reserved : unit ∉ plainCharacters.map Char.toNat)
    (single : unit < 0xD800 ∨ 0xDFFF < unit) (rest : List Nat) :
    encodeUnits (unit :: rest) = (encodeUnits rest).map (percentCode unit ++ ·) := by
  have leads : ¬ (0xD800 ≤ unit ∧ unit < 0xDC00) := by omega
  have trails : ¬ (0xDC00 ≤ unit ∧ unit < 0xE000) := by omega
  rw [encodeUnits.eq_def]
  simp only
  rw [if_neg reserved, if_neg leads, if_neg trails]

/-- A character is encoded alike by its code units and by its bytes. -/
theorem encodeUnits_codeUnits (c : Char) (rest : List Nat) :
    encodeUnits (codeUnits c ++ rest) = (encodeUnits rest).map (encodeChar c ++ ·) := by
  by_cases plain : c ∈ plainCharacters
  · have small : c.toNat < 0x10000 := Nat.lt_trans (toNat_lt_of_plain plain) (by decide)
    rw [codeUnits, if_pos small, List.singleton_append,
      encodeUnits_of_plain (toNat_mem_plain_iff.mpr plain), Char.ofNat_toNat, encodeChar_of_plain plain]
    rfl
  · rw [encodeChar_of_not_plain plain, flatMap_escape_bytesOf]
    by_cases small : c.toNat < 0x10000
    · have single : c.toNat < 0xD800 ∨ 0xDFFF < c.toNat := c.valid.imp id And.left
      rw [codeUnits, if_pos small, List.singleton_append,
        encodeUnits_of_single (toNat_mem_plain_iff.not.mpr plain) single]
    · have bound := toNat_lt c
      have reserved : 0xD800 + (c.toNat - 0x10000) / 0x400 ∉ plainCharacters.map Char.toNat := by
        intro member
        obtain ⟨other, plain, same⟩ := List.mem_map.mp member
        have := toNat_lt_of_plain plain
        omega
      have joined : 0x10000 + (0xD800 + (c.toNat - 0x10000) / 0x400 - 0xD800) * 0x400
          + (0xDC00 + (c.toNat - 0x10000) % 0x400 - 0xDC00) = c.toNat := by omega
      rw [codeUnits, if_neg small, List.cons_append, List.singleton_append,
        encodeUnits_of_pair reserved (by omega) (by omega), joined]

theorem encodeUnits_flatMap (cs : List Char) :
    encodeUnits (cs.flatMap codeUnits) = some (cs.flatMap encodeChar) := by
  induction cs with
  | nil => rfl
  | cons c cs ih =>
    rw [List.flatMap_cons, encodeUnits_codeUnits, ih, Option.map_some, List.flatMap_cons]

/-! ## Components -/

theorem encode_of_plain {s : String} (plain : ∀ c ∈ s.toList, c ∈ plainCharacters) : encode s = s := by
  have kept : s.toList.flatMap encodeChar = s.toList := by
    generalize s.toList = cs at plain
    induction cs with
    | nil => rfl
    | cons c cs ih =>
      obtain ⟨here, rest⟩ := List.forall_mem_cons.mp plain
      rw [List.flatMap_cons, encodeChar_of_plain here, ih rest, List.singleton_append]
  rw [encode, kept, String.ofList_toList]

theorem length_encodeChar_of_not_plain {c : Char} (reserved : c ∉ plainCharacters) :
    1 < (encodeChar c).length := by
  rw [encodeChar_of_not_plain reserved]
  cases bytes : bytesOf c with
  | nil => exact absurd bytes String.utf8EncodeChar_ne_nil
  | cons byte rest =>
    rw [List.flatMap_cons, escape_eq, List.length_append]
    simp only [List.length_cons]
    omega

theorem length_le_length_flatMap (cs : List Char) : cs.length ≤ (cs.flatMap encodeChar).length := by
  induction cs with
  | nil => exact Nat.le_refl 0
  | cons c cs ih =>
    have here : 1 ≤ (encodeChar c).length := by
      by_cases plain : c ∈ plainCharacters
      · rw [encodeChar_of_plain plain]
        exact Nat.le_refl 1
      · exact Nat.le_of_lt (length_encodeChar_of_not_plain plain)
    rw [List.flatMap_cons, List.length_append, List.length_cons]
    omega

/-- A component that is not longer than its text has nothing escaped. -/
theorem plain_of_length_eq {cs : List Char} (same : (cs.flatMap encodeChar).length = cs.length) :
    ∀ c ∈ cs, c ∈ plainCharacters := by
  induction cs with
  | nil => exact List.forall_mem_nil _
  | cons c cs ih =>
    have behind := length_le_length_flatMap cs
    rw [List.flatMap_cons, List.length_append, List.length_cons] at same
    by_cases plain : c ∈ plainCharacters
    · rw [encodeChar_of_plain plain, List.length_singleton] at same
      exact List.forall_mem_cons.mpr ⟨plain, ih (by omega)⟩
    · have longer := length_encodeChar_of_not_plain plain
      omega

theorem encode_eq_self_iff {s : String} : encode s = s ↔ ∀ c ∈ s.toList, c ∈ plainCharacters := by
  constructor
  · intro same
    apply plain_of_length_eq
    rw [encode, ← String.toList_inj, String.toList_ofList] at same
    exact congrArg List.length same
  · exact encode_of_plain

/-- **Percent encoding is lossless and safe.** Every text becomes a component of plain characters and
escapes, from which it is read back, so different texts have different components. Plain characters stay
as they are and all others do not, the parts of a text are encoded one by one, and the scripts of web
pages come to the same component by way of code units. -/
theorem encode_lossless :
    (∀ s, IsComponent (encode s).toList) ∧ (∀ s, decode (encode s) = some s) ∧
      Function.Injective encode ∧
      (∀ s, encode s = s ↔ ∀ c ∈ s.toList, c ∈ plainCharacters) ∧
      (∀ s t, encode (s ++ t) = encode s ++ encode t) ∧
      ∀ s, encodeUnits (s.toList.flatMap codeUnits) = some (encode s).toList := by
  refine ⟨fun s => ?_, decode_encode, ?_, fun s => encode_eq_self_iff, encode_append, fun s => ?_⟩
  · rw [encode, String.toList_ofList]
    exact isComponent_flatMap s.toList
  · intro s t same
    have read := decode_encode s
    rw [same, decode_encode t] at read
    exact (Option.some.inj read).symm
  · rw [encodeUnits_flatMap, encode, String.toList_ofList]

/-- A pair of surrogates is one character of four bytes. -/
example : encodeUnits [0x2F, 0xD83D, 0xDE00] = some (encode "/😀").toList := by decide +kernel

end IssueBoard.Text.Percent
