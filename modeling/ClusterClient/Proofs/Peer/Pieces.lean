import ClusterClient.Peer.Basic
import ClusterClient.Proofs.Split
namespace ClusterClient

namespace Text

theorem join_eq_flatMap (separator : Char) (piece : List Char) (pieces : List (List Char)) :
    join [separator] (piece :: pieces) = piece ++ pieces.flatMap (separator :: ·) := by
  induction pieces generalizing piece with
  | nil => simp [join]
  | cons next rest ih => simp [join,ih]

end Text

namespace Peer

-- A run of colons and the piece behind it. The number counts the colons past the first one.
abbrev Part := Nat × List Char

def Part.chars (part : Part) : List Char := ':' :: (List.replicate part.1 ':' ++ part.2)

-- The piece before the first run, and the runs with what follows each. Between two runs there is
-- something, but either end may be empty.
structure CutAt (text : String) (first : List Char) (parts : List Part) : Prop where
  whole : text.toList = first ++ parts.flatMap Part.chars
  first_free : ':' ∉ first
  free : ∀ part ∈ parts, ':' ∉ part.2
  inner : ∀ part ∈ parts.dropLast, part.2 ≠ []

def Part.pieces (part : Part) : List (List Char) := List.replicate part.1 [] ++ [part.2]

theorem Part.chars_eq (part : Part) : part.pieces.flatMap (':' :: ·) = part.chars := by
  obtain ⟨more,piece⟩ := part
  induction more with
  | zero => simp [pieces,chars]
  | succ more ih => simpa [pieces,chars,List.replicate_succ] using ih

theorem dropInner_cons (piece : List Char) {pieces : List (List Char)} (listed : pieces ≠ []) :
    dropInner (piece :: pieces) = if piece = [] then dropInner pieces else piece :: dropInner pieces := by
  cases pieces with
  | nil => exact absurd rfl listed
  | cons next rest => rfl

theorem dropInner_empties (more : Nat) {pieces : List (List Char)} (listed : pieces ≠ []) :
    dropInner (List.replicate more [] ++ pieces) = dropInner pieces := by
  induction more with
  | zero => rfl
  | succ more ih => simp [List.replicate_succ,dropInner_cons,listed,ih]

theorem dropInner_parts {parts : List Part} (inner : ∀ part ∈ parts.dropLast, part.2 ≠ []) :
    dropInner (parts.flatMap Part.pieces) = parts.map (·.2) := by
  induction parts with
  | nil => rfl
  | cons part rest ih =>
    cases rest with
    | nil => simp [Part.pieces,dropInner_empties,dropInner]
    | cons next others =>
      have listed : (next :: others).flatMap Part.pieces ≠ [] := by simp [Part.pieces]
      have later := ih fun other member => inner other (by simp [member])
      have given : part.2 ≠ [] := inner part (by simp)
      rw [List.flatMap_cons,Part.pieces,List.append_assoc,dropInner_empties _ (by simp),List.singleton_append,
        dropInner_cons _ listed,if_neg given,later]
      rfl

theorem parts_of_pieces (pieces : List (List Char)) :
    ∃ parts : List Part, pieces = parts.flatMap Part.pieces ∧ ∀ part ∈ parts.dropLast, part.2 ≠ [] := by
  induction pieces with
  | nil => exact ⟨[],rfl,by simp⟩
  | cons piece rest ih =>
    obtain ⟨parts,whole,inner⟩ := ih
    cases parts with
    | nil => exact ⟨[(0,piece)],by simp [whole,Part.pieces],by simp⟩
    | cons part others =>
      by_cases empty : piece = []
      · refine ⟨(part.1 + 1,part.2) :: others,by simp [whole,empty,Part.pieces,List.replicate_succ],?_⟩
        cases others with
        | nil => simp
        | cons next later => simpa using inner
      · exact ⟨(0,piece) :: part :: others,by simp [whole,Part.pieces],by simpa [empty] using inner⟩

theorem split_parts {text : String} {first : List Char} {parts : List Part} :
    Text.split ':' text.toList = first :: parts.flatMap Part.pieces ↔
      text.toList = first ++ parts.flatMap Part.chars ∧ ':' ∉ first ∧ ∀ part ∈ parts, ':' ∉ part.2 := by
  have free : (∀ piece ∈ parts.flatMap Part.pieces, ':' ∉ piece) ↔ ∀ part ∈ parts, ':' ∉ part.2 := by
    constructor
    · intro plain part member
      exact plain part.2 (List.mem_flatMap.mpr ⟨part,member,by simp [Part.pieces]⟩)
    · intro plain piece member
      obtain ⟨part,listed,inside⟩ := List.mem_flatMap.mp member
      rcases List.mem_append.mp inside with empty | last
      · simp [(List.mem_replicate.mp empty).2]
      · simpa [List.mem_singleton.mp last] using plain part listed
  rw [Text.split_exact (List.cons_ne_nil _ _),Text.join_eq_flatMap,List.flatMap_assoc,List.forall_mem_cons,free]
  simp only [Part.chars_eq]

theorem cut_exists (text : String) : ∃ first parts, CutAt text first parts := by
  obtain ⟨first,rest,split⟩ := List.exists_cons_of_ne_nil (Text.split_ne_nil ':' text.toList)
  obtain ⟨parts,rfl,inner⟩ := parts_of_pieces rest
  obtain ⟨whole,first_free,free⟩ := split_parts.mp split
  exact ⟨first,parts,whole,first_free,free,inner⟩

theorem pieces_cut {text : String} {first : List Char} {parts : List Part} (cut : CutAt text first parts) :
    pieces text = first :: parts.map (·.2) := by
  have split := split_parts.mpr ⟨cut.whole,cut.first_free,cut.free⟩
  simp only [pieces,split,dropInner_parts cut.inner]

theorem cut_pair {text : String} {host digits : List Char} {more : Nat} :
    CutAt text host [(more,digits)] ↔ text.toList = host ++ ':' :: (List.replicate more ':' ++ digits) ∧
      ':' ∉ host ∧ ':' ∉ digits := by
  constructor
  · intro cut
    exact ⟨by simpa [Part.chars] using cut.whole,cut.first_free,cut.free _ List.mem_cons_self⟩
  · rintro ⟨whole,first_free,free⟩
    exact ⟨by simpa [Part.chars] using whole,first_free,by simpa using free,by simp⟩

end Peer
end ClusterClient
