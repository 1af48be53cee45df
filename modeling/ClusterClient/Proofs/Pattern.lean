import ClusterClient.Text.Pattern
import Mathlib.Computability.Language
namespace ClusterClient.Pattern
open scoped Computability

def language : Pattern → Language Char
  | nothing => 1
  | among runs => {cs | ∃ c, cs = [c] ∧ inRuns runs c = true}
  | atMost most runs => {cs | cs.length ≤ most ∧ ∀ c ∈ cs, inRuns runs c = true}
  | exactly c => {[c]}
  | both first second => first.language * second.language
  | optional inner => 1 + inner.language
  | many inner => inner.language∗

variable {l m : Language Char} {c : Char} {cs : List Char} {runs : List (Char × Char)} {most : Nat}

@[simp] theorem mem_nothing : cs ∈ nothing.language ↔ cs = [] := Iff.rfl

@[simp] theorem mem_among : cs ∈ (among runs).language ↔ ∃ c, cs = [c] ∧ inRuns runs c = true := Iff.rfl

@[simp] theorem mem_atMost : cs ∈ (atMost most runs).language ↔ cs.length ≤ most ∧ ∀ c ∈ cs, inRuns runs c = true := Iff.rfl

@[simp] theorem mem_exactly {d : Char} : cs ∈ (exactly d).language ↔ cs = [d] := Iff.rfl

theorem mem_both {first second : Pattern} : cs ∈ (both first second).language ↔
    ∃ front ∈ first.language, ∃ back ∈ second.language, front ++ back = cs := Language.mem_mul

theorem mem_optional {inner : Pattern} : cs ∈ (optional inner).language ↔ cs = [] ∨ cs ∈ inner.language := Iff.rfl

theorem mem_many {inner : Pattern} : cs ∈ (many inner).language ↔
    ∃ pieces : List (List Char), cs = pieces.flatten ∧ ∀ piece ∈ pieces, piece ∈ inner.language := Iff.rfl

theorem nil_mem_mul : [] ∈ l * m ↔ [] ∈ l ∧ [] ∈ m := by
  rw [Language.mem_mul]
  constructor
  · rintro ⟨front,here,back,there,whole⟩
    obtain ⟨rfl,rfl⟩ := List.append_eq_nil_iff.mp whole
    exact ⟨here,there⟩
  · intro ⟨here,there⟩
    exact ⟨[],here,[],there,rfl⟩

theorem cons_mem_mul : c :: cs ∈ l * m ↔
    (∃ front back, cs = front ++ back ∧ c :: front ∈ l ∧ back ∈ m) ∨ ([] ∈ l ∧ c :: cs ∈ m) := by
  rw [Language.mem_mul]
  constructor
  · rintro ⟨front,here,back,there,whole⟩
    cases front with
    | nil =>
      rw [List.nil_append] at whole
      exact Or.inr ⟨here,whole ▸ there⟩
    | cons d more =>
      obtain ⟨rfl,rfl⟩ := List.cons.inj whole
      exact Or.inl ⟨more,back,rfl,here,there⟩
  · rintro (⟨front,back,rfl,here,there⟩ | ⟨empty,there⟩)
    · exact ⟨c :: front,here,back,there,rfl⟩
    · exact ⟨[],empty,c :: cs,there,rfl⟩

theorem cons_mem_kstar : c :: cs ∈ l∗ ↔ ∃ front back, cs = front ++ back ∧ c :: front ∈ l ∧ back ∈ l∗ := by
  constructor
  · rw [Language.mem_kstar_iff_exists_nonempty]
    rintro ⟨pieces,whole,listed⟩
    cases pieces with
    | nil => cases whole
    | cons piece rest =>
      obtain ⟨⟨here,filled⟩,later⟩ := List.forall_mem_cons.mp listed
      obtain ⟨d,front,rfl⟩ := List.exists_cons_of_ne_nil filled
      obtain ⟨rfl,rfl⟩ := List.cons.inj whole
      exact ⟨front,rest.flatten,rfl,here,Language.join_mem_kstar fun piece member => (later piece member).1⟩
  · rintro ⟨front,back,rfl,here,pieces,rfl,later⟩
    exact ⟨(c :: front) :: pieces,rfl,List.forall_mem_cons.mpr ⟨here,later⟩⟩

theorem matchesEmpty_iff {pattern : Pattern} : pattern.matchesEmpty = true ↔ [] ∈ pattern.language := by
  induction pattern with
  | nothing => exact iff_of_true rfl Language.nil_mem_one
  | among runs => simp [matchesEmpty]
  | atMost most runs => simp [matchesEmpty]
  | exactly d => simp [matchesEmpty]
  | both first second left right => rw [matchesEmpty,Bool.and_eq_true,left,right,language,nil_mem_mul]
  | optional inner _ => exact iff_of_true rfl (Or.inl rfl)
  | many inner _ => exact iff_of_true rfl (Language.nil_mem_kstar _)

theorem mem_map_both {ways : List Pattern} {next : Pattern} : (∃ way ∈ ways.map (both · next), cs ∈ way.language) ↔
    ∃ front back, cs = front ++ back ∧ (∃ way ∈ ways, front ∈ way.language) ∧ back ∈ next.language := by
  constructor
  · rintro ⟨way,listed,matched⟩
    obtain ⟨first,found,rfl⟩ := List.mem_map.mp listed
    obtain ⟨front,here,back,there,rfl⟩ := mem_both.mp matched
    exact ⟨front,back,rfl,⟨first,found,here⟩,there⟩
  · rintro ⟨front,back,rfl,⟨first,found,here⟩,there⟩
    exact ⟨both first next,List.mem_map_of_mem found,Language.append_mem_mul here there⟩

-- What may be left after a character matches just what may follow that character.
theorem mem_after {pattern : Pattern} :
    (∃ left ∈ pattern.after c, cs ∈ left.language) ↔ c :: cs ∈ pattern.language := by
  induction pattern generalizing cs with
  | nothing => simp [after]
  | among runs =>
    by_cases inside : inRuns runs c = true
    · simp [after,inside]
    · simp [after,inside]
  | atMost most runs =>
    cases most with
    | zero => simp [after]
    | succ most =>
      by_cases inside : inRuns runs c = true
      · simp [after,inside]
      · simp [after,inside]
  | exactly d =>
    by_cases same : c = d
    · simp [after,same]
    · simp [after,same]
  | both first second left right =>
    -- The second pattern gets at the character only where the first may be empty.
    have skipped : (∃ way ∈ if first.matchesEmpty then second.after c else [], cs ∈ way.language) ↔
        [] ∈ first.language ∧ c :: cs ∈ second.language := by
      rw [← matchesEmpty_iff,← right]
      by_cases empty : first.matchesEmpty = true
      · simp [empty]
      · simp [empty]
    rw [language,cons_mem_mul,after]
    simp only [List.mem_append,or_and_right,exists_or,mem_map_both,left,skipped]
  | optional inner ih =>
    rw [after,ih,mem_optional]
    simp
  | many inner ih =>
    rw [language,cons_mem_kstar,after]
    simp only [mem_map_both,ih,language]

theorem anyAccepts_iff {ways : List Pattern} : anyAccepts ways cs = true ↔ ∃ way ∈ ways, cs ∈ way.language := by
  induction cs generalizing ways with
  | nil =>
    rw [anyAccepts,List.any_eq_true]
    exact exists_congr fun way => and_congr_right fun _ => matchesEmpty_iff
  | cons c rest ih =>
    rw [anyAccepts,ih]
    constructor
    · rintro ⟨left,listed,matched⟩
      obtain ⟨way,found,inside⟩ := List.mem_flatMap.mp listed
      exact ⟨way,found,mem_after.mp ⟨left,inside,matched⟩⟩
    · rintro ⟨way,found,matched⟩
      obtain ⟨left,inside,later⟩ := mem_after.mpr matched
      exact ⟨left,List.mem_flatMap.mpr ⟨way,found,inside⟩,later⟩

theorem accepts_iff {pattern : Pattern} {text : String} :
    pattern.accepts text = true ↔ text.toList ∈ pattern.language := by
  rw [accepts,anyAccepts_iff]
  simp

end ClusterClient.Pattern
