import ClusterClient.Proofs.Json.Members
import ClusterClient.Proofs.Json.Outline
namespace ClusterClient.Json.Reading
open Reader

section
variable {read : Read Json}

inductive Standing (read : Read Json) : List (String × Json) → List Char → List Char → Prop where
  | last : skipSpaces cs = '"' :: quoted → member read quoted = .ok (pair,mid) →
      skipSpaces mid = '\x7d' :: rest → Standing read [pair] cs rest
  | more : skipSpaces cs = '"' :: quoted → member read quoted = .ok (pair,mid) →
      skipSpaces mid = ',' :: next → Standing read pairs next rest → Standing read (pair :: pairs) cs rest

theorem Standing.opening {pairs : List (String × Json)} {cs rest : List Char}
    (stand : Standing read pairs cs rest) : ∃ quoted, skipSpaces cs = '"' :: quoted := by
  cases stand with
  | last quote => exact ⟨_,quote⟩
  | more quote => exact ⟨_,quote⟩

theorem Standing.unique {pairs others : List (String × Json)} {cs rest after : List Char}
    (left : Standing read pairs cs rest) (right : Standing read others cs after) : pairs = others := by
  -- Each reader gives one result, so what the two go through is the same step by step.
  induction left generalizing others after with
  | last quote first close =>
    cases right with
    | last quote' first' _ =>
      cases quote.symm.trans quote'
      cases first.symm.trans first'
      rfl
    | more quote' first' comma _ =>
      cases quote.symm.trans quote'
      cases first.symm.trans first'
      cases close.symm.trans comma
  | more quote first comma _ ih =>
    cases right with
    | last quote' first' close =>
      cases quote.symm.trans quote'
      cases first.symm.trans first'
      cases comma.symm.trans close
    | more quote' first' comma' later =>
      cases quote.symm.trans quote'
      cases first.symm.trans first'
      cases comma.symm.trans comma'
      rw [ih later]

theorem moreMembers_stand {turns : Nat} {cs rest : List Char} {pairs : List (String × Json)}
    (got : moreMembers read turns cs = .ok (pairs,rest)) :
    (skipSpaces cs = '\x7d' :: rest ∧ pairs = []) ∨
      ∃ next, skipSpaces cs = ',' :: next ∧ Standing read pairs next rest := by
  induction turns generalizing cs pairs with
  | zero => cases got
  | succ turns ih =>
    rw [moreMembers] at got
    split at got
    · cases got
    · rename_i close
      cases got
      exact Or.inl ⟨close,rfl⟩
    · rename_i next comma
      refine Or.inr ⟨next,comma,?_⟩
      split at got
      · cases got
      · cases got
      · rename_i quote
        obtain ⟨⟨pair,mid⟩,first,got⟩ := bind_eq_ok.mp got
        obtain ⟨⟨later,last⟩,others,got⟩ := bind_eq_ok.mp got
        cases got
        rcases ih others with ⟨close,rfl⟩ | ⟨after,comma,stand⟩
        · exact .last quote first close
        · exact .more quote first comma stand
      · cases got
    · cases got

theorem object_stand {cs rest : List Char} {members : Members}
    (got : Reader.object read cs = .ok (.object members,rest)) :
    (skipSpaces cs = '\x7d' :: rest ∧ members = []) ∨
      ∃ pairs, Standing read pairs cs rest ∧ members = Members.ofList pairs := by
  unfold Reader.object at got
  split at got
  · cases got
  · rename_i close
    cases got
    exact Or.inl ⟨close,rfl⟩
  · rename_i text quote
    obtain ⟨⟨key,afterKey⟩,keyRead,got⟩ := bind_eq_ok.mp got
    dsimp only at got
    split at got
    · cases spelledNumber_kind got
    · obtain ⟨afterColon,colonRead,got⟩ := bind_eq_ok.mp got
      obtain ⟨⟨v,mid⟩,valueRead,got⟩ := bind_eq_ok.mp got
      obtain ⟨⟨others,last⟩,later,got⟩ := bind_eq_ok.mp got
      cases got
      have first : member read text = .ok ((key,v),[] ++ mid) := member_spelled keyRead colonRead valueRead
      refine Or.inr ⟨(key,v) :: others,?_,rfl⟩
      rcases moreMembers_stand later with ⟨close,rfl⟩ | ⟨next,comma,stand⟩
      · exact .last quote first close
      · exact .more quote first comma stand
  · cases got

theorem valueWith_object {cs rest : List Char} {members : Members}
    (got : valueWith (some read) cs = .ok (.object members,rest)) :
    ∃ tail, skipSpaces cs = '\x7b' :: tail ∧ Reader.object read tail = .ok (.object members,rest) := by
  unfold valueWith at got
  split at got
  · cases got
  -- Words, numbers, strings and arrays are no objects.
  iterate 6
    · obtain ⟨_,_,got⟩ := bind_eq_ok.mp got
      cases got
  · exact ⟨_,‹_›,got⟩
  · split at got
    · obtain ⟨_,_,got⟩ := bind_eq_ok.mp got
      cases got
    · cases got

end

def Lists (source : String) (pairs : List (String × Json)) : Prop :=
  (∃ members, parse source = .ok (.object members)) ∧
    ∃ tail rest, skipSpaces source.toList = '\x7b' :: tail ∧ Standing (value 126) pairs tail rest

theorem parse_object {source : String} {members : Members} (parsed : parse source = .ok (.object members)) :
    ∃ tail rest, skipSpaces source.toList = '\x7b' :: tail ∧
      Reader.object (value 126) tail = .ok (.object members,rest) := by
  obtain ⟨rest,got,_⟩ := parse_ok.mp parsed
  obtain ⟨tail,brace,object⟩ := valueWith_object got
  exact ⟨tail,rest,brace,object⟩

theorem lists_of_parse {source : String} {members : Members} (parsed : parse source = .ok (.object members))
    (listed : members ≠ []) : ∃ pairs, Lists source pairs := by
  obtain ⟨tail,rest,brace,object⟩ := parse_object parsed
  rcases object_stand object with ⟨_,none⟩ | ⟨pairs,stand,_⟩
  · exact absurd none listed
  · exact ⟨pairs,⟨members,parsed⟩,tail,rest,brace,stand⟩

theorem Lists.parsed {source : String} {pairs : List (String × Json)} (lists : Lists source pairs) :
    parse source = .ok (.object (Members.ofList pairs)) := by
  obtain ⟨⟨members,parsed⟩,tail,rest,brace,stand⟩ := lists
  obtain ⟨tail',rest',brace',object⟩ := parse_object parsed
  cases brace.symm.trans brace'
  rcases object_stand object with ⟨close,_⟩ | ⟨others,stand',rfl⟩
  · obtain ⟨text,quote⟩ := stand.opening
    cases quote.symm.trans close
  · rw [parsed,stand.unique stand']

theorem Lists.ne_nil {source : String} {pairs : List (String × Json)} (lists : Lists source pairs) : pairs ≠ [] := by
  obtain ⟨_,_,_,_,stand⟩ := lists
  cases stand <;> exact List.cons_ne_nil _ _

def lastHeld (field : String) (pairs : List (String × Json)) : Option Json :=
  (pairs.reverse.find? fun pair => pair.1 = field).map (·.2)

end ClusterClient.Json.Reading
