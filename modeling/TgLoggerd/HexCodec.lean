import Mathlib.Data.List.Basic

/-!
Octets written as hexadecimal text, two digits each and the high half first.
Writing uses small letters, reading takes either case, and what was written
reads back.
-/

namespace HexCodec

def digit (half : Nat) : Char := "0123456789abcdef".toList.getD half '0'

def value (c : Char) : Option Nat :=
  if '0' ≤ c ∧ c ≤ '9' then some (c.toNat - '0'.toNat)
  else if 'a' ≤ c ∧ c ≤ 'f' then some (c.toNat - 'a'.toNat + 10)
  else if 'A' ≤ c ∧ c ≤ 'F' then some (c.toNat - 'A'.toNat + 10)
  else none

def pair (octet : UInt8) : List Char :=
  [digit (octet >>> 4).toNat, digit (octet &&& 0x0f).toNat]

def encode (octets : List UInt8) : List Char := octets.flatMap pair

def decode : List Char → Option (List UInt8)
  | [] => some []
  | [_] => none
  | high :: low :: rest =>
      match value high, value low, decode rest with
      | some high, some low, some octets => some (UInt8.ofNat (16 * high + low) :: octets)
      | _, _, _ => none

theorem value_digit (half : Nat) (small : half < 16) : value (digit half) = some half := by
  have every : ∀ half < 16, value (digit half) = some half := by decide
  exact every half small

theorem halves (octet : UInt8) :
    (octet >>> 4).toNat < 16 ∧ (octet &&& 0x0f).toNat < 16 ∧
      16 * (octet >>> 4).toNat + (octet &&& 0x0f).toNat = octet.toNat := by
  have shifted : (octet >>> 4).toNat = octet.toNat / 16 := Nat.shiftRight_eq_div_pow _ 4
  have masked : (octet &&& 0x0f).toNat = octet.toNat % 16 :=
    Nat.and_two_pow_sub_one_eq_mod _ 4
  have bound := octet.toNat_lt
  omega

@[simp]
theorem encode_nil : encode [] = [] := rfl

@[simp]
theorem encode_cons (octet : UInt8) (rest : List UInt8) :
    encode (octet :: rest) = pair octet ++ encode rest := rfl

theorem decode_encode (octets : List UInt8) : decode (encode octets) = some octets := by
  induction octets with
  | nil => rfl
  | cons octet rest ih =>
      obtain ⟨high, low, whole⟩ := halves octet
      simp only [encode_cons, pair, List.cons_append, List.nil_append, decode, value_digit _ high,
        value_digit _ low, ih, whole, UInt8.ofNat_toNat]

theorem length_encode (octets : List UInt8) : (encode octets).length = 2 * octets.length := by
  induction octets with
  | nil => rfl
  | cons octet rest ih =>
      rw [encode_cons, List.length_append, ih, List.length_cons]
      simp only [pair, List.length_cons, List.length_nil]
      omega

end HexCodec
