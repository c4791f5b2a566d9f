/-
Reading percent-encoded texts back. Every byte that is written with a percent sign is read as that
byte, and every other character is one of ASCII and stands for itself: so the bytes read are those
of the text, and no two texts are encoded alike.
-/
import ProfileReadme.Proofs.Url.Delimiters
import ProfileReadme.Value.JsonReader

namespace ProfileReadme.Url

/-- The byte that two hexadecimal digits write. -/
def byteOf? (high low : Char) : Option UInt8 :=
  (Json.hexValue? high).bind fun h => (Json.hexValue? low).map fun l => .ofNat (16 * h + l)

/-- The bytes that an encoded text stands for. -/
def bytesOf : List Char → List UInt8
  | [] => []
  | '%' :: high :: low :: cs =>
    match byteOf? high low with
    | some b => b :: bytesOf cs
    | none => String.utf8EncodeChar '%' ++ bytesOf (high :: low :: cs)
  | c :: cs => String.utf8EncodeChar c ++ bytesOf cs

theorem byteOf?_digits (b : UInt8) :
    byteOf? (upperHex (b.toNat / 16)) (upperHex b.toNat) = some b := by
  have digit (n : Nat) : Json.hexValue? (upperHex n) = some (n % 16) := by
    have all : ∀ n < 16, Json.hexValue? (Nat.digitChar n).toUpper = some n := by decide
    exact all (n % 16) (Nat.mod_lt n (by decide))
  have small := b.toNat_lt
  have whole : 16 * (b.toNat / 16 % 16) + b.toNat % 16 = b.toNat := by omega
  unfold byteOf?
  rw [digit, digit, Option.bind_some, Option.map_some, whole, UInt8.ofNat_toNat]

theorem bytesOf_encodeByte (b : UInt8) (cs : List Char) :
    bytesOf (encodeByte b ++ cs) = b :: bytesOf cs := by
  show bytesOf ('%' :: upperHex (b.toNat / 16) :: upperHex b.toNat :: cs) = _
  rw [bytesOf, byteOf?_digits]

theorem bytesOf_encodeBytes (bs : List UInt8) (cs : List Char) :
    bytesOf (bs.flatMap encodeByte ++ cs) = bs ++ bytesOf cs := by
  induction bs with
  | nil => rfl
  | cons b bs ih =>
    rw [List.flatMap_cons, List.append_assoc, bytesOf_encodeByte, ih, List.cons_append]

theorem bytesOf_encodeChar (c : Char) (cs : List Char) :
    bytesOf (encodeChar c ++ cs) = String.utf8EncodeChar c ++ bytesOf cs := by
  unfold encodeChar
  by_cases plain : isPlain c = true
  · have other : c ≠ '%' := by
      rintro rfl
      exact absurd plain (by decide)
    rw [if_pos plain, List.singleton_append]
    exact bytesOf.eq_3 c cs fun _ _ _ same _ => other same
  · rw [if_neg plain, bytesOf_encodeBytes]

theorem encode_toList (s : String) : (encode s).toList = s.toList.flatMap encodeChar :=
  String.toList_ofList

theorem bytesOf_encode (s : String) :
    bytesOf (encode s).toList = s.toList.flatMap String.utf8EncodeChar := by
  rw [encode_toList]
  induction s.toList with
  | nil => rfl
  | cons c cs ih => rw [List.flatMap_cons, bytesOf_encodeChar, ih, List.flatMap_cons]

/-- No two texts are encoded alike. -/
theorem encode_injective {s t : String} (h : encode s = encode t) : s = t := by
  have bytes := bytesOf_encode s
  rw [h, bytesOf_encode] at bytes
  have utf8 : (String.ofList t.toList).toByteArray = (String.ofList s.toList).toByteArray := by
    rw [String.toByteArray_ofList, String.toByteArray_ofList]
    exact congrArg List.toByteArray bytes
  rw [String.ofList_toList, String.ofList_toList] at utf8
  exact (String.toByteArray_inj.1 utf8).symm

end ProfileReadme.Url
