import Mathlib.Data.List.Forall2
import Mathlib.Data.List.TakeWhile
import Multiplexer.Error

/-! Which texts name a kind. A text is read as a kind exactly if it is a word for the kind, in any
casing of ASCII letters, between white space; any other text is reported as it was given. -/
namespace Multiplexer

namespace Text

/-- The code points with the Unicode property `White_Space`. -/
def whiteSpace : List Nat :=
  [0x9, 0xa, 0xb, 0xc, 0xd, 0x20, 0x85, 0xa0, 0x1680, 0x2000, 0x2001, 0x2002, 0x2003, 0x2004,
    0x2005, 0x2006, 0x2007, 0x2008, 0x2009, 0x200a, 0x2028, 0x2029, 0x202f, 0x205f, 0x3000]

def Padding (w : List Char) : Prop := ∀ c ∈ w, c.toNat ∈ whiteSpace

/-- The characters differ at most as the capital and the small form of one ASCII letter. -/
def SameLetter (a b : Char) : Prop :=
  a = b ∨ ∃ i < 26, (a.toNat = 65 + i ∧ b.toNat = 97 + i) ∨ (a.toNat = 97 + i ∧ b.toNat = 65 + i)

instance {w : List Char} : Decidable (Padding w) :=
  List.decidableBAll (fun c : Char => c.toNat ∈ whiteSpace) w

instance {a b : Char} : Decidable (SameLetter a b) :=
  inferInstanceAs (Decidable (a = b ∨ ∃ i < 26, _ ∨ _))

variable {a b c : Char} {n w₁ w₂ word : List Char}

theorem isBlank_iff_mem : isBlank c = true ↔ c.toNat ∈ whiteSpace := by
  simp only [isBlank, Bool.or_eq_true, Bool.and_eq_true, decide_eq_true_eq, beq_iff_eq,
    UInt32.le_iff_toNat_le, ← UInt32.toNat_inj, UInt32.reduceToNat, whiteSpace, List.mem_cons,
    List.not_mem_nil, or_false, Char.toNat]
  omega

/-! ### Padding -/

theorem padding_iff : Padding w₁ ↔ ∀ c ∈ w₁, isBlank c = true := by
  simp only [Padding, isBlank_iff_mem]

theorem padding_reverse : Padding w₁.reverse ↔ Padding w₁ := by
  simp only [Padding, List.mem_reverse]

/-- What is trimmed off is padding. -/
theorem trimBlanks_split (s : List Char) :
    ∃ w₁ w₂, s = w₁ ++ trimBlanks s ++ w₂ ∧ Padding w₁ ∧ Padding w₂ := by
  have dropped : ∀ t : List Char, Padding (t.takeWhile isBlank) := by
    intro t
    exact padding_iff.mpr fun c mem => List.mem_takeWhile_imp mem
  let rest := s.dropWhile isBlank
  have back : rest = trimBlanks s ++ (rest.reverse.takeWhile isBlank).reverse := by
    rw [trimBlanks, ← List.reverse_append, List.takeWhile_append_dropWhile, List.reverse_reverse]
  refine ⟨s.takeWhile isBlank, (rest.reverse.takeWhile isBlank).reverse, ?_, dropped s,
    padding_reverse.mpr (dropped _)⟩
  rw [List.append_assoc, ← back, List.takeWhile_append_dropWhile]

theorem dropWhile_padding (padding : Padding w₁) (n : List Char) :
    (w₁ ++ n).dropWhile isBlank = n.dropWhile isBlank :=
  List.dropWhile_append_of_pos (padding_iff.mp padding)

theorem dropWhile_solid (some : n ≠ []) (solid : ∀ c ∈ n, isBlank c = false) (w : List Char) :
    (n ++ w).dropWhile isBlank = n ++ w := by
  cases n with
  | nil => exact absurd rfl some
  | cons c rest =>
      have first := solid c List.mem_cons_self
      simp [first]

/-- Padding is trimmed off, and nothing else is. -/
theorem trimBlanks_padded (front : Padding w₁) (back : Padding w₂) (some : n ≠ [])
    (solid : ∀ c ∈ n, isBlank c = false) : trimBlanks (w₁ ++ n ++ w₂) = n := by
  have solid' : ∀ c ∈ n.reverse, isBlank c = false := by
    intro c mem
    exact solid c (List.mem_reverse.mp mem)
  have last := dropWhile_solid (List.reverse_ne_nil_iff.mpr some) solid' []
  rw [List.append_nil] at last
  rw [trimBlanks, List.append_assoc, dropWhile_padding front, dropWhile_solid some solid,
    List.reverse_append, dropWhile_padding (padding_reverse.mpr back), last, List.reverse_reverse]

/-! ### Casing -/

theorem toNat_toLower (a : Char) :
    a.toLower.toNat = if 65 ≤ a.toNat ∧ a.toNat ≤ 90 then a.toNat + 32 else a.toNat := by
  delta Char.toLower
  split
  · rename_i capital
    have capital : 65 ≤ a.toNat ∧ a.toNat ≤ 90 := capital
    rw [if_pos capital]
    change (a.val + 32).toNat = a.val.toNat + 32
    change 65 ≤ a.val.toNat ∧ a.val.toNat ≤ 90 at capital
    have gap : (32 : UInt32).toNat = 32 := rfl
    rw [UInt32.toNat_add, gap]
    omega
  · rename_i small
    exact (if_neg small).symm

/-- Two characters are the same in small letters exactly if they are the same letter, provided that
the second one is in small letters already. -/
theorem toLower_eq_iff (small : b.toLower = b) : a.toLower = b ↔ SameLetter a b := by
  rw [SameLetter, ← Char.toNat_inj, ← Char.toNat_inj, toNat_toLower]
  rw [← Char.toNat_inj, toNat_toLower] at small
  constructor
  · intro same
    split at same
    · exact .inr ⟨a.toNat - 65, by omega, by omega⟩
    · exact .inl same
  · intro same
    cases same with
    | inl same => split <;> split at small <;> omega
    | inr letter =>
        obtain ⟨i, low, cases⟩ := letter
        split <;> split at small <;> omega

theorem map_toLower_eq_iff (small : ∀ b ∈ word, b.toLower = b) :
    n.map Char.toLower = word ↔ List.Forall₂ SameLetter n word := by
  induction word generalizing n with
  | nil => simp
  | cons b word ih =>
      cases n with
      | nil => simp
      | cons a n =>
          obtain ⟨first, rest⟩ := List.forall_mem_cons.mp small
          simp [toLower_eq_iff first, ih rest]

theorem isBlank_toLower (c : Char) : isBlank c.toLower = isBlank c := by
  rw [Bool.eq_iff_iff, isBlank_iff_mem, isBlank_iff_mem, toNat_toLower]
  split
  · simp only [whiteSpace, List.mem_cons, List.not_mem_nil, or_false]
    omega
  · rfl

end Text

open Text

namespace Kind

def words : Kind → List String
  | ioUring => [ioUring.name, "iouring", "uring"]
  | k => [k.name]

/-- The text is a word for the kind, in any casing of ASCII letters, between white space. -/
def Spelled (k : Kind) (s : List Char) : Prop :=
  ∃ w₁ n w₂, s = w₁ ++ n ++ w₂ ∧ Padding w₁ ∧ Padding w₂ ∧
    ∃ word ∈ k.words, List.Forall₂ SameLetter n word.toList

variable {k : Kind} {word : String}

theorem ofWord?_eq_some_iff : ofWord? word = some k ↔ word ∈ k.words := by
  constructor
  · intro read
    unfold ofWord? at read
    split at read <;> cases read <;> decide
  · intro mem
    cases k <;> simp only [words, List.mem_cons, List.not_mem_nil, or_false] at mem
    case ioUring => rcases mem with rfl | rfl | rfl <;> rfl
    all_goals
      subst mem
      rfl

/-- Words have no capitals and no blanks in them. -/
theorem solid_of_mem_words (mem : word ∈ k.words) :
    word.toList ≠ [] ∧ ∀ c ∈ word.toList, c.toLower = c ∧ isBlank c = false := by
  have every : ∀ k : Kind, ∀ word ∈ k.words,
      word.toList ≠ [] ∧ word.toList.all (fun c => c.toLower = c ∧ isBlank c = false) = true := by
    intro k
    cases k <;> decide
  obtain ⟨something, solid⟩ := every k word mem
  exact ⟨something, fun c inside => of_decide_eq_true (List.all_eq_true.mp solid c inside)⟩

/-- Reading takes off white space and the case of letters, and nothing more. -/
theorem ofName?_eq_some_iff (s : String) : ofName? s = some k ↔ k.Spelled s.toList := by
  rw [ofName?, ofWord?_eq_some_iff]
  constructor
  · intro mem
    obtain ⟨w₁, w₂, split, front, back⟩ := trimBlanks_split s.toList
    refine ⟨w₁, trimBlanks s.toList, w₂, split, front, back, _, mem, ?_⟩
    have small := fun c mem' => ((solid_of_mem_words mem).2 c mem').1
    rw [← map_toLower_eq_iff small, String.toList_ofList]
  · intro spelled
    obtain ⟨w₁, n, w₂, split, front, back, word, mem, cased⟩ := spelled
    obtain ⟨some, solid⟩ := solid_of_mem_words mem
    have lowered := (map_toLower_eq_iff fun c mem' => (solid c mem').1).mpr cased
    have some' : n ≠ [] := by
      intro none
      rw [none] at lowered
      exact some lowered.symm
    have solid' : ∀ c ∈ n, isBlank c = false := by
      intro c mem'
      rw [← isBlank_toLower]
      exact (solid _ (lowered ▸ List.mem_map_of_mem mem')).2
    rw [split, trimBlanks_padded front back some' solid', lowered, String.ofList_toList]
    exact mem

theorem parse_eq_ok_iff {s : String} : parse s = .ok k ↔ k.Spelled s.toList := by
  rw [← ofName?_eq_some_iff, parse]
  cases ofName? s with
  | none => simp
  | some => simp

theorem parse_eq_error_iff {s : String} {e : Error} :
    parse s = .error e ↔ (∀ k : Kind, ¬ k.Spelled s.toList) ∧ e = .invalidBackendName s := by
  simp only [← ofName?_eq_some_iff, parse]
  cases ofName? s with
  | none => simp [eq_comm]
  | some => simp

theorem Spelled.unique {k' : Kind} {s : List Char} (h : k.Spelled s) (h' : k'.Spelled s) :
    k = k' := by
  rw [← String.toList_ofList (l := s), ← parse_eq_ok_iff] at h h'
  exact Except.ok.inj (h.symm.trans h')

/-- A text is read as a kind exactly if it spells the kind, and is reported unchanged if it spells
none. It spells no two kinds. Whatever the casing of a kind's name and the white space around it, the
kind is read back. -/
theorem parse_reads_spelled (s : String) :
    (∀ k, parse s = .ok k ↔ k.Spelled s.toList) ∧
    (∀ e, parse s = .error e ↔ (∀ k : Kind, ¬ k.Spelled s.toList) ∧ e = .invalidBackendName s) ∧
    (∀ k k' : Kind, k.Spelled s.toList → k'.Spelled s.toList → k = k') ∧
    ∀ (k : Kind) w₁ n w₂, s.toList = w₁ ++ n ++ w₂ → Padding w₁ → Padding w₂ →
      List.Forall₂ SameLetter n k.name.toList → parse s = .ok k := by
  refine ⟨fun k => parse_eq_ok_iff, fun e => parse_eq_error_iff, fun k k' => Spelled.unique, ?_⟩
  intro k w₁ n w₂ split front back cased
  have named : k.name ∈ k.words := by cases k <;> decide
  exact parse_eq_ok_iff.mpr ⟨w₁, n, w₂, split, front, back, k.name, named, cased⟩

/-- An ideographic space, a name in mixed case and two blanks. -/
theorem padded_name_read :
    Padding ['\u3000'] ∧ Padding ['\t', '\u00a0'] ∧
      List.Forall₂ SameLetter "IO_Uring".toList ioUring.name.toList ∧
      ioUring.Spelled "\u3000IO_Uring\t\u00a0".toList ∧
      parse "\u3000IO_Uring\t\u00a0" = .ok .ioUring := by
  have front : Padding ['\u3000'] := by decide
  have back : Padding ['\t', '\u00a0'] := by decide
  have cased : List.Forall₂ SameLetter "IO_Uring".toList ioUring.name.toList := by decide
  obtain ⟨reads, -, -, named⟩ := parse_reads_spelled "\u3000IO_Uring\t\u00a0"
  have read := named ioUring ['\u3000'] "IO_Uring".toList ['\t', '\u00a0'] (by decide) front back cased
  exact ⟨front, back, cased, (reads _).mp read, read⟩

/-- A zero-width space is no white space, and the sign for kelvins is no letter k. -/
example : parse "\u200bepoll" = .error (.invalidBackendName "\u200bepoll") ∧
    parse " \u212aqueue" = .error (.invalidBackendName " \u212aqueue") := by decide

end Kind
end Multiplexer
