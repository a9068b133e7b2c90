import Mathlib.Data.List.Basic

namespace Tropek
namespace Library

/-!
# Percent coding

A text is sent as the bytes of its UTF-8 form.  An unreserved byte is sent as the
character it stands for, and any other as a percent sign with two digits.  The receiver
puts the bytes together again and decodes them, so that a percent sign which is no part
of a code stands for itself.
-/

namespace PercentCoding

def hexDigits : List Char :=
  "0123456789ABCDEF".toList

/-- The value of a digit, in either case. -/
def hexValue (digit : Char) : Option Nat :=
  if '0' ≤ digit ∧ digit ≤ '9' then some (digit.toNat - '0'.toNat)
  else if 'A' ≤ digit ∧ digit ≤ 'F' then some (digit.toNat - 'A'.toNat + 10)
  else if 'a' ≤ digit ∧ digit ≤ 'f' then some (digit.toNat - 'a'.toNat + 10)
  else none

/-- Letters, digits, and the four marks that need no code. -/
def isUnreserved (letter : Char) : Bool :=
  ('a' ≤ letter && letter ≤ 'z') || ('A' ≤ letter && letter ≤ 'Z') ||
    ('0' ≤ letter && letter ≤ '9') || "-_.~".toList.contains letter

def encodeByte (byte : UInt8) : List Char :=
  if isUnreserved (Char.ofNat byte.toNat) then [Char.ofNat byte.toNat]
  else ['%', hexDigits.getD (byte.toNat / 16) '0', hexDigits.getD (byte.toNat % 16) '0']

/-- Encode a text, whatever it contains. -/
def encode (text : List Char) : List Char :=
  (text.flatMap String.utf8EncodeChar).flatMap encodeByte

/-- The byte of a code, if the two characters are digits. -/
def codedByte (high low : Char) : Option UInt8 := do
  let first <- hexValue high
  let second <- hexValue low
  return UInt8.ofNat (16 * first + second)

/-- The bytes that a sent text stands for. -/
def bytes : List Char -> List UInt8
  | [] => []
  | [letter] => String.utf8EncodeChar letter
  | [first, second] => String.utf8EncodeChar first ++ String.utf8EncodeChar second
  | letter :: high :: low :: rest =>
      match if letter = '%' then codedByte high low else none with
      | some byte => byte :: bytes rest
      | none => String.utf8EncodeChar letter ++ bytes (high :: low :: rest)

/-- The text that is received, unless the bytes are not the UTF-8 form of any. -/
def decode (sent : List Char) : Option (List Char) :=
  (bytes sent).toByteArray.utf8Decode?.map Array.toList

example : encode "a/b %".toList = "a%2Fb%20%25".toList := by decide +kernel

/-- A character that is no percent sign stands for itself. -/
theorem bytes_cons {letter : Char} (plain : letter ≠ '%') (rest : List Char) :
    bytes (letter :: rest) = String.utf8EncodeChar letter ++ bytes rest := by
  match rest with
  | [] => simp [bytes]
  | [_] => simp [bytes]
  | _ :: _ :: _ => rw [bytes, if_neg plain]

theorem bytes_append {text : List Char} (plain : '%' ∉ text) (rest : List Char) :
    bytes (text ++ rest) = text.flatMap String.utf8EncodeChar ++ bytes rest := by
  induction text with
  | nil => rfl
  | cons letter later ih =>
      rw [List.mem_cons, not_or] at plain
      rw [List.cons_append, bytes_cons (Ne.symm plain.1), ih plain.2,
        List.flatMap_cons, List.append_assoc]

theorem unreserved_byte : forall byte : Fin 256, isUnreserved (Char.ofNat byte) = true ->
    Char.ofNat byte ≠ '%' ∧
      String.utf8EncodeChar (Char.ofNat byte) = [UInt8.ofNat byte] := by
  decide +kernel

theorem codedByte_digits : forall byte : Fin 256,
    codedByte (hexDigits.getD (byte / 16) '0') (hexDigits.getD (byte % 16) '0') =
      some (UInt8.ofNat byte) := by
  decide +kernel

theorem bytes_encodeByte (byte : UInt8) (rest : List Char) :
    bytes (encodeByte byte ++ rest) = byte :: bytes rest := by
  have small : byte.toNat < 256 := byte.toNat_lt
  unfold encodeByte
  by_cases unreserved : isUnreserved (Char.ofNat byte.toNat) = true
  · rcases unreserved_byte ⟨byte.toNat, small⟩ unreserved with ⟨plain, itself⟩
    rw [if_pos unreserved, List.singleton_append, bytes_cons plain, itself]
    simp
  · have coded := codedByte_digits ⟨byte.toNat, small⟩
    rw [if_neg unreserved]
    change bytes ('%' :: _ :: _ :: rest) = _
    rw [bytes, if_pos rfl, coded]
    simp

theorem bytes_encode (text rest : List Char) :
    bytes (encode text ++ rest) = text.flatMap String.utf8EncodeChar ++ bytes rest := by
  unfold encode
  induction text.flatMap String.utf8EncodeChar with
  | nil => rfl
  | cons byte later ih =>
      rw [List.flatMap_cons, List.append_assoc, bytes_encodeByte, ih,
        List.cons_append]

/-- A text between two plain ones is received as it was before it was encoded. -/
theorem decode_encode (before text after : List Char) (plainBefore : '%' ∉ before)
    (plainAfter : '%' ∉ after) :
    decode (before ++ encode text ++ after) = some (before ++ text ++ after) := by
  have tail := bytes_append plainAfter []
  rw [List.append_nil, bytes, List.append_nil] at tail
  unfold decode
  rw [List.append_assoc, bytes_append plainBefore, bytes_encode, tail, <- List.flatMap_append,
    <- List.flatMap_append, <- List.append_assoc]
  change ((before ++ text ++ after).utf8Encode.utf8Decode?).map Array.toList = _
  rw [List.utf8Decode?_utf8Encode]
  rfl

end PercentCoding
end Library
end Tropek
