import Mathlib.Tactic.SplitIfs
import Symtab.Text.Utf8

/-!
# The order of bytes

Texts come in the same order whether they are compared by their characters or by the bytes that
encode them: a larger character has the larger byte at the first place where the two differ, and no
character is encoded by the start of another.
-/

set_option autoImplicit false

namespace Symtab

/-- Of two numbers the smaller has the smaller digit at the first place where they differ, in base
64. -/
theorem lt_at_first_digit {v w : Nat} (lower : v < w) :
    v / 262144 < w / 262144 ∨ v / 262144 = w / 262144 ∧ (v / 4096 % 64 < w / 4096 % 64 ∨
      v / 4096 % 64 = w / 4096 % 64 ∧
      (v / 64 % 64 < w / 64 % 64 ∨ v / 64 % 64 = w / 64 % 64 ∧ v % 64 < w % 64)) := by
  have lastDigit : ∀ {m n : Nat}, m < n → m / 64 < n / 64 ∨ m / 64 = n / 64 ∧ m % 64 < n % 64 := by
    omega
  have shiftedTwice : ∀ n : Nat, n / 4096 = n / 64 / 64 := by omega
  have shiftedThrice : ∀ n : Nat, n / 262144 = n / 64 / 64 / 64 := by omega
  rw [shiftedTwice, shiftedTwice, shiftedThrice, shiftedThrice]
  rcases lastDigit lower with higher | ⟨same, fourth⟩
  · rcases lastDigit higher with higher | ⟨same, third⟩
    · rcases lastDigit higher with first | ⟨same, second⟩
      · exact .inl first
      · exact .inr ⟨same, .inl second⟩
    · rw [same]
      exact .inr ⟨rfl, .inr ⟨rfl, .inl third⟩⟩
  · rw [same]
    exact .inr ⟨rfl, .inr ⟨rfl, .inr ⟨rfl, fourth⟩⟩⟩

namespace Text

private theorem utf8EncodeChar_append_lt {c d : Char} (smaller : c < d) (rest others : List UInt8) :
    String.utf8EncodeChar c ++ rest < String.utf8EncodeChar d ++ others := by
  have lower : c.val.toNat < d.val.toNat := smaller
  have bound : d.val.toNat < 0x110000 := by
    rcases d.valid with small | ⟨_, large⟩
    · exact Nat.lt_trans small (by decide)
    · exact large
  unfold String.utf8EncodeChar
  generalize c.val.toNat = v at lower
  generalize d.val.toNat = w at lower bound
  have digits := lt_at_first_digit lower
  -- The bytes as numbers, so that only arithmetic is left.
  have trailing : ∀ n : Nat, (n % 64 + 128) % 2 ^ 8 = n % 64 + 128 := by omega
  have leading : ∀ n < 0x110000, (n / 262144 % 8 + 240) % 2 ^ 8 = n / 262144 + 240 := by omega
  dsimp only
  split_ifs
  all_goals
    simp only [List.cons_append, List.nil_append, List.cons_lt_cons_iff, UInt8.lt_iff_toNat_lt,
      ← UInt8.toNat_inj, UInt8.toNat_ofNat', trailing, leading v (Nat.lt_trans lower bound),
      leading w bound]
    omega

private theorem encode_lt_encode {first second : List Char} (smaller : first < second) :
    encode first < encode second := by
  induction first generalizing second with
  | nil =>
    cases second with
    | nil => exact absurd smaller (List.lt_irrefl [])
    | cons d others =>
      have nonempty : encode (d :: others) ≠ [] := by simp [encode]
      obtain ⟨byte, bytes, split⟩ := List.exists_cons_of_ne_nil nonempty
      rw [split]
      exact List.nil_lt_cons byte bytes
  | cons c rest ih =>
    cases second with
    | nil => exact absurd smaller (List.not_lt_nil _)
    | cons d others =>
      rw [encode, encode, List.flatMap_cons, List.flatMap_cons]
      rcases List.cons_lt_cons_iff.mp smaller with lower | ⟨rfl, later⟩
      · exact utf8EncodeChar_append_lt lower _ _
      · exact List.append_left_lt (ih later)

end Text

/-- The bytes of a name. -/
def nameBytes (name : String) : List UInt8 :=
  Text.encode name.toList

theorem map_nameBytes_lt {first second : List String} (smaller : first < second) :
    first.map nameBytes < second.map nameBytes :=
  List.map_lt (fun _ _ lower => Text.encode_lt_encode (String.lt_iff.mp lower)) smaller

end Symtab
