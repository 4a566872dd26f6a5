import Mathlib.Logic.Function.Basic
import AbandonedBikes.Report.Reporter
/-!
# What tells anonymous reporters apart

The identity of an anonymous device is a digest of its token and the secret of the server with a colon
between them. Nothing is lost after that: the digest is taken of the bytes of this text, and its
hexadecimal digits can be read back. So two identities are equal only if the texts are, or if two
messages collide.

The texts themselves do not say which of their colons was put in. `preimage_eq_iff` says that this is the
only thing that they leave open: a piece of one secret that ends with a colon may as well be a piece of
the other token that begins with one.
-/

namespace AbandonedBikes

/-! ## Bytes and their digits -/

theorem byteArray_toList_loop (bytes : ByteArray) (start : Nat) (reversed : List UInt8) :
    ByteArray.toList.loop bytes start reversed = reversed.reverse ++ bytes.data.toList.drop start := by
  fun_induction ByteArray.toList.loop bytes start reversed with
  | case1 start reversed more ih =>
    have bound : start < bytes.data.toList.length := by simpa using more
    rw [ih, List.drop_eq_getElem_cons bound]
    simp [ByteArray.get!, more]
  | case2 start reversed done =>
    rw [List.drop_eq_nil_of_le (by simpa using Nat.le_of_not_lt done)]
    simp

/-- Texts with the same bytes are the same. -/
theorem toList_toUTF8_inj {text other : String} :
    text.toUTF8.toList = other.toUTF8.toList ↔ text = other := by
  have as_data (bytes : ByteArray) : bytes.toList = bytes.data.toList := by
    simp [ByteArray.toList, byteArray_toList_loop]
  rw [as_data, as_data, Array.toList_inj, ← ByteArray.ext_iff]
  exact String.toByteArray_inj

/-- Lists of pieces of one length fall apart in one way only. -/
theorem flatMap_injective {α β : Type} {pieces : α → List β} {length : Nat}
    (injective : Function.Injective pieces) (lengths : ∀ a, (pieces a).length = length + 1) :
    Function.Injective (List.flatMap pieces) := by
  have filled (a : α) (rest : List α) : [] ≠ (a :: rest).flatMap pieces := by
    intro empty
    have lengths_equal := congrArg List.length empty
    rw [List.flatMap_cons, List.length_append, lengths, List.length_nil] at lengths_equal
    omega
  intro list other same
  induction list generalizing other with
  | nil =>
    cases other with
    | nil => rfl
    | cons b others => exact absurd same (filled b others)
  | cons a rest ih =>
    cases other with
    | nil => exact absurd same.symm (filled a rest)
    | cons b others =>
      rw [List.flatMap_cons, List.flatMap_cons] at same
      obtain ⟨first, after⟩ := List.append_inj same ((lengths a).trans (lengths b).symm)
      rw [injective first, ih after]

namespace Text

/-- The digits of a byte have the values of its halves. -/
theorem mapM_hexValue?_hexDigits : ∀ byte : Fin 256,
    (hexDigits 2 byte).mapM hexValue? = some [byte.val / 16, byte.val % 16] := by
  decide +kernel

theorem mapM_hexValue?_byte (byte : UInt8) :
    (hexDigits 2 byte.toNat).mapM hexValue? = some [byte.toNat / 16, byte.toNat % 16] :=
  mapM_hexValue?_hexDigits byte.toFin

theorem byteDigits_injective : Function.Injective fun byte : UInt8 => hexDigits 2 byte.toNat := by
  intro byte other same
  have halves := congrArg (List.mapM hexValue?) same
  simp only [mapM_hexValue?_byte, Option.some.injEq, List.cons.injEq, and_true] at halves
  exact UInt8.toNat_inj.mp (by omega)

theorem length_hexDigits {width n : Nat} (filled : 0 < width) (fits : n < Nat.pow 16 width) :
    (hexDigits width n).length = width := by
  have digits := (Nat.length_toDigits_le_iff (by decide : 1 < 16) filled).mpr fits
  rw [hexDigits, List.length_append, List.length_replicate]
  omega

theorem hexBytes_injective : Function.Injective hexBytes := by
  have two (byte : UInt8) : (hexDigits 2 byte.toNat).length = 1 + 1 :=
    length_hexDigits Nat.two_pos byte.toNat_lt
  intro bytes other same
  exact flatMap_injective byteDigits_injective two (String.ofList_injective same)

end Text

/-- Two different messages have the same digest. -/
def Sha256.Collide (message other : List UInt8) : Prop :=
  message ≠ other ∧ digest message = digest other

namespace Reporter

variable {device secret device' secret' : String}

/-! ## The text under the digest -/

/-- The second token goes on where the first one ends, with what stands in the first secret before a
colon. -/
def Shifted (device secret device' secret' : String) : Prop :=
  ∃ piece, device' = device ++ ":" ++ piece ∧ secret = piece ++ ":" ++ secret'

theorem preimage_eq_iff_text : preimage device secret = preimage device' secret' ↔
    device ++ ":" ++ secret = device' ++ ":" ++ secret' :=
  toList_toUTF8_inj

/-- Of two equal texts, the one with the longer token has at least one more colon in it. -/
theorem shifted_of_split {more : List Char} (token : device'.toList = device.toList ++ more)
    (rest : ':' :: secret.toList = more ++ ':' :: secret'.toList) :
    (device = device' ∧ secret = secret') ∨ Shifted device secret device' secret' := by
  cases more with
  | nil =>
    rw [List.append_nil, String.toList_inj] at token
    rw [List.nil_append, List.cons_inj_right, String.toList_inj] at rest
    exact .inl ⟨token.symm, rest⟩
  | cons colon piece =>
    obtain ⟨rfl, rest⟩ := List.cons.inj rest
    refine .inr ⟨String.ofList piece, String.toList_inj.mp ?_, String.toList_inj.mp ?_⟩
    · simpa using token
    · simpa using rest

/-- Two pairs have the same text if and only if they are the same, or differ only in where the text is
cut. -/
theorem preimage_eq_iff : preimage device secret = preimage device' secret' ↔
    (device = device' ∧ secret = secret') ∨ Shifted device secret device' secret' ∨
      Shifted device' secret' device secret := by
  rw [preimage_eq_iff_text]
  constructor
  · intro same
    have lists : device.toList ++ ':' :: secret.toList = device'.toList ++ ':' :: secret'.toList := by
      simpa using congrArg String.toList same
    obtain ⟨more, token, rest⟩ | ⟨more, token, rest⟩ := List.append_eq_append_iff.mp lists
    · exact (shifted_of_split token rest).imp_right .inl
    · obtain ⟨tokens, secrets⟩ | shifted := shifted_of_split token rest
      · exact .inl ⟨tokens.symm, secrets.symm⟩
      · exact .inr (.inr shifted)
  · rintro (⟨rfl, rfl⟩ | ⟨piece, rfl, rfl⟩ | ⟨piece, rfl, rfl⟩)
    · rfl
    · simp only [String.append_assoc]
    · simp only [String.append_assoc]

/-- Under one secret, devices are told apart. -/
theorem preimage_inj_of_secret :
    preimage device secret = preimage device' secret ↔ device = device' := by
  rw [preimage_eq_iff_text, String.append_left_inj, String.append_left_inj]

/-- A device is somebody else under another secret. -/
theorem preimage_inj_of_device :
    preimage device secret = preimage device secret' ↔ secret = secret' := by
  rw [preimage_eq_iff_text, String.append_right_inj]

/-! ## The identity -/

theorem anonymous_eq_iff : anonymous device secret = anonymous device' secret' ↔
    Sha256.digest (preimage device secret) = Sha256.digest (preimage device' secret') := by
  rw [anonymous, anonymous, Reporter.mk.injEq, String.append_right_inj]
  exact Text.hexBytes_injective.eq_iff

/-- What is put under the digest is the same only for the same device and secret and for pairs that are
cut differently out of one text; and only then are two identities the same, unless two messages
collide. -/
theorem anonymous_told_apart (device secret device' secret' : String) :
    (preimage device secret = preimage device' secret' ↔
      (device = device' ∧ secret = secret') ∨ Shifted device secret device' secret' ∨
        Shifted device' secret' device secret) ∧
    (anonymous device secret = anonymous device' secret' ↔
      preimage device secret = preimage device' secret' ∨
        Sha256.Collide (preimage device secret) (preimage device' secret')) := by
  refine ⟨preimage_eq_iff, anonymous_eq_iff.trans ⟨fun same => ?_, ?_⟩⟩
  · by_cases texts : preimage device secret = preimage device' secret'
    · exact .inl texts
    · exact .inr ⟨texts, same⟩
  · rintro (texts | ⟨_, same⟩)
    · rw [texts]
    · exact same

/-- A colon may belong to the token or to the secret. -/
theorem preimage_ambiguous : (("a:b", "c") : String × String) ≠ ("a", "b:c") ∧
    preimage "a:b" "c" = preimage "a" "b:c" ∧ anonymous "a:b" "c" = anonymous "a" "b:c" := by
  have texts : preimage "a:b" "c" = preimage "a" "b:c" := preimage_eq_iff_text.mpr rfl
  exact ⟨by decide, texts, anonymous_eq_iff.mpr (congrArg Sha256.digest texts)⟩

end Reporter

end AbandonedBikes
