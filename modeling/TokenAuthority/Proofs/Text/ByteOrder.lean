import Mathlib.Data.String.Basic
import TokenAuthority.Proofs.Text.Utf8

/-!
# The order of the bytes

Texts are in the order of their characters.  In UTF-8 their bytes are in the same order: the first bytes in which
two characters differ are those of the larger and the smaller one, so that the bytes of no other character are
looked at.
-/

namespace TokenAuthority
namespace Text

/-- Bytes are compared one after the other, as long as they are the same. -/
theorem cons_lt_cons_of_le {first second : Nat} {left right : List UInt8} (bound : second < 256)
    (notAbove : first ≤ second) (behind : first = second → left < right) :
    UInt8.ofNat first :: left < UInt8.ofNat second :: right := by
  rw [List.cons_lt_cons_iff]
  rcases Nat.eq_or_lt_of_le notAbove with same | below
  · exact .inr ⟨congrArg UInt8.ofNat same, behind same⟩
  · left
    rw [UInt8.lt_iff_toNat_lt, UInt8.toNat_ofNat', UInt8.toNat_ofNat', Nat.mod_eq_of_lt bound,
      Nat.mod_eq_of_lt (below.trans bound)]
    exact below

theorem cons_lt_cons_of_lt {first second : Nat} {left right : List UInt8} (bound : second < 256)
    (below : first < second) : UInt8.ofNat first :: left < UInt8.ofNat second :: right :=
  cons_lt_cons_of_le bound below.le fun same => absurd same below.ne

/-- The bytes of a smaller character come first, whatever characters follow. -/
theorem utf8EncodeChar_append_lt {smaller larger : Char} (below : smaller < larger) (left right : List UInt8) :
    String.utf8EncodeChar smaller ++ left < String.utf8EncodeChar larger ++ right := by
  have numbers : smaller.val.toNat < larger.val.toNat := below
  have bound : larger.val.toNat < 0x110000 := by
    rcases larger.valid with low | high <;> omega
  simp only [String.utf8EncodeChar]
  split_ifs <;> simp only [List.cons_append, List.nil_append]
  -- a smaller character has no longer encoding
  any_goals omega
  -- the first byte of a longer encoding is larger; in one of the same length the digits decide
  · exact cons_lt_cons_of_lt (by omega) (by omega)
  · exact cons_lt_cons_of_lt (by omega) (by omega)
  · exact cons_lt_cons_of_lt (by omega) (by omega)
  · exact cons_lt_cons_of_lt (by omega) (by omega)
  · refine cons_lt_cons_of_le (by omega) (by omega) fun same => ?_
    exact cons_lt_cons_of_lt (by omega) (by omega)
  · exact cons_lt_cons_of_lt (by omega) (by omega)
  · exact cons_lt_cons_of_lt (by omega) (by omega)
  · refine cons_lt_cons_of_le (by omega) (by omega) fun same => ?_
    refine cons_lt_cons_of_le (by omega) (by omega) fun same => ?_
    exact cons_lt_cons_of_lt (by omega) (by omega)
  · exact cons_lt_cons_of_lt (by omega) (by omega)
  · refine cons_lt_cons_of_le (by omega) (by omega) fun same => ?_
    refine cons_lt_cons_of_le (by omega) (by omega) fun same => ?_
    refine cons_lt_cons_of_le (by omega) (by omega) fun same => ?_
    exact cons_lt_cons_of_lt (by omega) (by omega)

theorem utf8_lt_utf8 : ∀ {left right : List Char}, left < right → utf8 left < utf8 right
  | [], [], before => absurd before (List.lt_irrefl _)
  | [], character :: rest, _ => by
      cases encoded : String.utf8EncodeChar character with
      | nil => exact absurd encoded String.utf8EncodeChar_ne_nil
      | cons byte bytes =>
          rw [utf8_cons, encoded]
          exact List.nil_lt_cons _ _
  | _ :: _, [], before => absurd before (List.not_lt_nil _)
  | first :: left, second :: right, before => by
      rw [utf8_cons, utf8_cons]
      rcases List.cons_lt_cons_iff.mp before with below | ⟨rfl, behind⟩
      · exact utf8EncodeChar_append_lt below _ _
      · exact List.append_left_lt (utf8_lt_utf8 behind)

/-- The bytes of a text come before those of another one. -/
def IsBefore (left right : String) : Prop :=
  left.toUTF8.data.toList < right.toUTF8.data.toList

/-- The order of the bytes is that of the texts. -/
theorem isBefore_iff {left right : String} : IsBefore left right ↔ left < right := by
  rw [IsBefore, toUTF8_toList, toUTF8_toList, String.lt_iff_toList_lt]
  constructor
  · intro bytes
    rcases lt_trichotomy left.toList right.toList with before | same | after
    · exact before
    · rw [same] at bytes
      exact absurd bytes (List.lt_irrefl _)
    · exact absurd bytes (List.lt_asymm (utf8_lt_utf8 after))
  · exact utf8_lt_utf8

end Text
end TokenAuthority
