import ClusterClient.Proofs.Entry.Recoded
import ClusterClient.Proofs.Json.Written
namespace ClusterClient

def fault? {ε α : Type} : Except ε α → Option ε
  | .ok _ => none
  | .error failure => some failure

theorem fault?_eq_some {ε α : Type} {word : Except ε α} {failure : ε} :
    fault? word = some failure ↔ word = .error failure := by
  cases word <;> simp [fault?]

theorem fault?_eq_none {ε α : Type} {word : Except ε α} : fault? word = none ↔ ∃ x, word = .ok x := by
  cases word <;> simp [fault?]

theorem fault?_bind {ε α β : Type} {word : Except ε α} {next : α → Except ε β} {later : Option ε}
    (after : ∀ x, word = .ok x → fault? (next x) = later) : fault? (word >>= next) = (fault? word).or later := by
  cases word with
  | ok x => exact after x rfl
  | error failure => rfl

namespace Entry
open Json (Members)

def texts : List String := ["Session", "Key", "Value"]

def required : List String := ["Key", "Value"]

def names : List String := counters ++ texts

def membersOf : Json → Members
  | .object members => members
  | _ => []

inductive Check where
  | object
  | filled
  | counter (field : String)
  | text (field : String)
  | present (field : String)
  | symbols

inductive Refuses (policy : MissingFields) (v : Json) : Check → Failure → Prop where
  | object : v.kind ≠ .object → Refuses policy v .object (.shape (.notAnEntry v.kind))
  | filled : v = .object [] → Refuses policy v .filled (.shape .emptyEntry)
  | counterKind : (membersOf v).get? field = some other → other.kind ≠ .number →
      Refuses policy v (.counter field) (.fieldType field .number other.kind)
  | counterRange : (membersOf v).get? field = some (.number n) → Index.ofNumber? n = none →
      Refuses policy v (.counter field) (.range field "64-bit unsigned integer" n.text)
  | text : (membersOf v).get? field = some other → other.kind ≠ .string →
      Refuses policy v (.text field) (.fieldType field .string other.kind)
  | present : policy = .strict → (membersOf v).get? field = none →
      Refuses policy v (.present field) (.shape (.missingField field))
  | symbols : (membersOf v).get? "Value" = some (.string s) → (∀ value, ¬Value.StandsFor s value) →
      Refuses policy v .symbols (.range "Value" "base64 string" s)

-- A missing member is noticed where its type is looked at, and symbols are read last of all.
def Check.order : List Check :=
  [.object, .filled, .counter "CreateIndex", .counter "ModifyIndex", .counter "LockIndex", .counter "Flags",
    .text "Session", .text "Key", .present "Key", .text "Value", .present "Value", .symbols]

def Check.said? (policy : MissingFields) (v : Json) : Check → Option Failure
  | .object => if v.kind = .object then none else some (.shape (.notAnEntry v.kind))
  | .filled =>
    match v with
    | .object [] => some (.shape .emptyEntry)
    | _ => none
  | .counter field => fault? (indexField (membersOf v) field)
  | .text field => fault? (stringField (membersOf v) field)
  | .present field =>
    if policy = .strict ∧ (membersOf v).get? field = none then some (.shape (.missingField field)) else none
  | .symbols =>
    match (membersOf v).get? "Value" with
    | some (.string s) => fault? (Value.decode s)
    | _ => none

theorem indexField_error {members : Members} {field : String} {failure : Failure} :
    indexField members field = .error failure ↔
      (∃ other, members.get? field = some other ∧ other.kind ≠ .number ∧
        failure = .fieldType field .number other.kind) ∨
      ∃ n, members.get? field = some (.number n) ∧ Index.ofNumber? n = none ∧
        failure = .range field "64-bit unsigned integer" n.text := by
  unfold indexField
  cases held : members.get? field with
  | none => simp
  | some v =>
    cases v with
    | number n => cases whole : Index.ofNumber? n <;> simp [Json.kind,whole,eq_comm]
    | _ => simp [Json.kind,eq_comm]

theorem stringField_error {members : Members} {field : String} {failure : Failure} :
    stringField members field = .error failure ↔
      ∃ other, members.get? field = some other ∧ other.kind ≠ .string ∧
        failure = .fieldType field .string other.kind := by
  unfold stringField
  cases held : members.get? field with
  | none => simp
  | some v => cases v <;> simp [Json.kind,eq_comm]

theorem decode_error {encoded : String} {failure : Failure} : Value.decode encoded = .error failure ↔
    (∀ value, ¬Value.StandsFor encoded value) ∧ failure = .range "Value" "base64 string" encoded := by
  constructor
  · intro refused
    have none : ∀ value, Value.decode encoded ≠ .ok value := fun value read => by simp [refused] at read
    have told := Value.decode_refused none
    rw [refused,Except.error.injEq] at told
    exact ⟨fun value stands => none value (Value.decode_stands.mpr stands),told⟩
  · rintro ⟨none,rfl⟩
    exact Value.decode_refused fun value read => none value (Value.decode_stands.mp read)

theorem said?_refuses {policy : MissingFields} {v : Json} {check : Check} {failure : Failure} :
    check.said? policy v = some failure ↔ Refuses policy v check failure := by
  constructor
  · intro said
    cases check with
    | object =>
      simp only [Check.said?] at said
      split at said
      · cases said
      · cases said
        exact .object ‹_›
    | filled =>
      simp only [Check.said?] at said
      split at said
      · cases said
        exact .filled rfl
      · cases said
    | counter field =>
      rcases indexField_error.mp (fault?_eq_some.mp said) with ⟨other,held,kind,rfl⟩ | ⟨n,held,large,rfl⟩
      · exact .counterKind held kind
      · exact .counterRange held large
    | text field =>
      obtain ⟨other,held,kind,rfl⟩ := stringField_error.mp (fault?_eq_some.mp said)
      exact .text held kind
    | present field =>
      simp only [Check.said?] at said
      split at said
      · rename_i strict
        cases said
        exact .present strict.1 strict.2
      · cases said
    | symbols =>
      simp only [Check.said?] at said
      split at said
      · rename_i s held
        obtain ⟨none,rfl⟩ := decode_error.mp (fault?_eq_some.mp said)
        exact .symbols held none
      · cases said
  · rintro (kind | rfl | ⟨held,kind⟩ | ⟨held,large⟩ | ⟨held,kind⟩ | ⟨strict,missing⟩ | ⟨held,none⟩)
    · simp [Check.said?,kind]
    · rfl
    · exact fault?_eq_some.mpr (indexField_error.mpr (Or.inl ⟨_,held,kind,rfl⟩))
    · exact fault?_eq_some.mpr (indexField_error.mpr (Or.inr ⟨_,held,large,rfl⟩))
    · exact fault?_eq_some.mpr (stringField_error.mpr ⟨_,held,kind,rfl⟩)
    · simp [Check.said?,strict,missing]
    · simp only [Check.said?,held]
      exact fault?_eq_some.mpr (decode_error.mpr ⟨none,rfl⟩)

theorem said?_eq_none {policy : MissingFields} {v : Json} {check : Check} :
    check.said? policy v = none ↔ ∀ failure, ¬Refuses policy v check failure := by
  simp only [← said?_refuses,Option.eq_none_iff_forall_ne_some,ne_eq]

theorem findSome?_or {f : α → Option β} {x : α} {rest : List α} :
    (x :: rest).findSome? f = (f x).or (rest.findSome? f) := by
  rw [List.findSome?_cons]
  cases f x <;> rfl

theorem stringField_missing {members : Members} {field : String} (missing : members.get? field = none) :
    stringField members field = .ok none := by
  rw [stringField,missing]

theorem requiredField_tolerant (members : Members) (field : String) :
    requiredField members field .tolerant = stringField members field := by
  unfold requiredField
  split
  · rename_i impossible
    cases impossible
  · rfl

theorem requiredField_missing {members : Members} {field : String} (missing : members.get? field = none) :
    requiredField members field .strict = .error (.shape (.missingField field)) := by
  unfold requiredField
  rw [stringField_missing missing]

theorem requiredField_present {members : Members} {field : String} (policy : MissingFields)
    (present : members.get? field ≠ none) : requiredField members field policy = stringField members field := by
  unfold requiredField
  split
  · rename_i none
    unfold stringField at none
    split at none
    · exact absurd ‹_› present
    · cases none
    · cases none
  · rfl

theorem requiredField_fault (members : Members) (field : String) (policy : MissingFields) :
    fault? (requiredField members field policy) = ((Check.text field).said? policy (.object members)).or
      ((Check.present field).said? policy (.object members)) := by
  simp only [Check.said?,membersOf]
  by_cases missing : members.get? field = none
  · rw [stringField_missing missing]
    cases policy with
    | tolerant =>
      rw [requiredField_tolerant,stringField_missing missing]
      simp [fault?]
    | strict =>
      rw [requiredField_missing missing]
      simp [fault?,missing]
  · rw [requiredField_present policy missing]
    simp [missing]

theorem symbols_fault {members : Members} {policy : MissingFields} {found : Option String}
    (read : requiredField members "Value" policy = .ok found) :
    fault? (Value.decode (found.getD "")) = Check.symbols.said? policy (.object members) := by
  have text := requiredField_ok read
  have typed : fault? (requiredField members "Value" policy) = none := fault?_eq_none.mpr ⟨found,read⟩
  rw [requiredField_fault,Option.or_eq_none_iff] at typed
  rw [text,textOf]
  simp only [Check.said?,membersOf] at typed ⊢
  unfold stringField at typed
  cases held : members.get? "Value" with
  | none => rfl
  | some v => cases v <;> simp_all [fault?]

theorem ofMembers_fault (members : Members) (policy : MissingFields) :
    fault? (ofMembers members policy) = (Check.order.drop 2).findSome? (Check.said? policy (.object members)) := by
  simp only [Check.order,List.drop_succ_cons,List.drop_zero,findSome?_or]
  unfold ofMembers
  refine fault?_bind fun createIndex _ => ?_
  refine fault?_bind fun modifyIndex _ => ?_
  refine fault?_bind fun lockIndex _ => ?_
  refine fault?_bind fun flags _ => ?_
  refine fault?_bind fun session _ => ?_
  rw [← Option.or_assoc,← requiredField_fault]
  refine fault?_bind fun key _ => ?_
  rw [← Option.or_assoc,← requiredField_fault]
  refine fault?_bind fun encoded read => ?_
  rw [← symbols_fault read]
  exact fault?_bind fun value _ => rfl

theorem ofJson_fault (policy : MissingFields) (v : Json) :
    fault? (ofJson policy v) = Check.order.findSome? (Check.said? policy v) := by
  cases v with
  | object members =>
    cases members with
    | nil => rfl
    | cons pair rest =>
      change fault? (ofMembers (pair :: rest) policy) = _
      rw [ofMembers_fault]
      rfl
  | _ => rfl

theorem ofJson_error {policy : MissingFields} {v : Json} {failure : Failure} :
    ofJson policy v = .error failure ↔ ∃ passed check rest, Check.order = passed ++ check :: rest ∧
      (∀ earlier ∈ passed, ∀ other, ¬Refuses policy v earlier other) ∧ Refuses policy v check failure := by
  rw [← fault?_eq_some,ofJson_fault,List.findSome?_eq_some_iff]
  simp only [said?_refuses,said?_eq_none]
  constructor
  · rintro ⟨passed,check,rest,whole,refused,before⟩
    exact ⟨passed,check,rest,whole,before,refused⟩
  · rintro ⟨passed,check,rest,whole,before,refused⟩
    exact ⟨passed,check,rest,whole,refused,before⟩

structure Acceptable (policy : MissingFields) (members : Members) : Prop where
  filled : members ≠ []
  counters : ∀ field ∈ counters, ∀ v, members.get? field = some v →
    ∃ n word, v = .number n ∧ Index.ofNumber? n = some word
  texts : ∀ field ∈ texts, ∀ v, members.get? field = some v → ∃ s, v = .string s
  present : policy = .strict → ∀ field ∈ required, members.get? field ≠ none
  symbols : ∀ s, members.get? "Value" = some (.string s) → ∃ value, Value.StandsFor s value

section
variable {policy : MissingFields} {v : Json} {field : String}

theorem counter_passes : (∀ failure, ¬Refuses policy v (.counter field) failure) ↔
    ∀ held, (membersOf v).get? field = some held →
      ∃ n word, held = .number n ∧ Index.ofNumber? n = some word := by
  constructor
  · intro passes held here
    cases held with
    | number n =>
      cases whole : Index.ofNumber? n with
      | some word => exact ⟨n,word,rfl,whole⟩
      | none => exact absurd (.counterRange here whole) (passes _)
    | _ => exact absurd (.counterKind here (by simp [Json.kind])) (passes _)
  · intro accepted failure refused
    cases refused with
    | counterKind here kind =>
      obtain ⟨n,word,rfl,_⟩ := accepted _ here
      exact kind rfl
    | counterRange here large =>
      obtain ⟨n,word,same,whole⟩ := accepted _ here
      cases same
      simp [large] at whole

theorem text_passes : (∀ failure, ¬Refuses policy v (.text field) failure) ↔
    ∀ held, (membersOf v).get? field = some held → ∃ s, held = .string s := by
  constructor
  · intro passes held here
    cases held with
    | string s => exact ⟨s,rfl⟩
    | _ => exact absurd (.text here (by simp [Json.kind])) (passes _)
  · intro accepted failure refused
    cases refused with
    | text here kind =>
      obtain ⟨s,rfl⟩ := accepted _ here
      exact kind rfl

theorem present_passes : (∀ failure, ¬Refuses policy v (.present field) failure) ↔
    (policy = .strict → (membersOf v).get? field ≠ none) := by
  constructor
  · exact fun passes strict missing => passes _ (.present strict missing)
  · intro accepted failure refused
    cases refused with
    | present strict missing => exact accepted strict missing

theorem symbols_passes : (∀ failure, ¬Refuses policy v .symbols failure) ↔
    ∀ s, (membersOf v).get? "Value" = some (.string s) → ∃ value, Value.StandsFor s value := by
  constructor
  · intro passes s here
    by_contra none
    exact passes _ (.symbols here (not_exists.mp none))
  · intro accepted failure refused
    cases refused with
    | symbols here none =>
      obtain ⟨value,stands⟩ := accepted _ here
      exact none value stands

end

theorem ofJson_object_passes {policy : MissingFields} {members : Members} :
    (∀ check ∈ Check.order, ∀ failure, ¬Refuses policy (.object members) check failure) ↔
      Acceptable policy members := by
  have shaped : ∀ failure, ¬Refuses policy (.object members) .object failure := by
    intro failure refused
    cases refused with
    | object kind => exact kind rfl
  have filled : (∀ failure, ¬Refuses policy (.object members) .filled failure) ↔ members ≠ [] := by
    constructor
    · rintro passes rfl
      exact passes _ (.filled rfl)
    · intro listed failure refused
      cases refused with
      | filled same => exact listed (Json.object.inj same)
  -- The order goes through the checks one by one; here they stand together by what they ask for.
  simp only [Check.order,List.forall_mem_cons,List.not_mem_nil,IsEmpty.forall_iff,implies_true,and_true,filled,
    counter_passes,text_passes,present_passes,symbols_passes,membersOf]
  constructor
  · rintro ⟨_,listed,create,modify,lock,flags,session,key,keyPresent,value,valuePresent,symbols⟩
    refine ⟨listed,?_,?_,?_,symbols⟩
    · simp only [counters,List.forall_mem_cons,List.not_mem_nil,IsEmpty.forall_iff,implies_true,and_true]
      exact ⟨create,modify,lock,flags⟩
    · simp only [texts,List.forall_mem_cons,List.not_mem_nil,IsEmpty.forall_iff,implies_true,and_true]
      exact ⟨session,key,value⟩
    · intro strict
      simp only [required,List.forall_mem_cons,List.not_mem_nil,IsEmpty.forall_iff,implies_true,and_true]
      exact ⟨keyPresent strict,valuePresent strict⟩
  · rintro ⟨listed,counted,typed,present,symbols⟩
    simp only [counters,texts,required,List.forall_mem_cons,List.not_mem_nil,IsEmpty.forall_iff,implies_true,
      and_true] at counted typed present
    obtain ⟨create,modify,lock,flags⟩ := counted
    obtain ⟨session,key,value⟩ := typed
    exact ⟨shaped,listed,create,modify,lock,flags,session,key,fun strict => (present strict).1,value,
      fun strict => (present strict).2,symbols⟩

theorem ofJson_accepts {policy : MissingFields} {v : Json} :
    (∃ e, ofJson policy v = .ok e) ↔ ∃ members, v = .object members ∧ Acceptable policy members := by
  rw [← fault?_eq_none,ofJson_fault,List.findSome?_eq_none_iff]
  simp only [said?_eq_none]
  constructor
  · intro passes
    cases v with
    | object members => exact ⟨members,rfl,ofJson_object_passes.mp passes⟩
    | _ => exact absurd (.object (by simp [Json.kind])) (passes .object (by simp [Check.order]) _)
  · rintro ⟨members,rfl,acceptable⟩
    exact ofJson_object_passes.mpr acceptable

theorem ofMembers_congr {members others : Members}
    (counted : ∀ field ∈ counters, indexField members field = indexField others field)
    (typed : ∀ field ∈ texts, members.get? field = others.get? field) (policy : MissingFields) :
    ofMembers members policy = ofMembers others policy := by
  have read : ∀ field ∈ texts, stringField members field = stringField others field := by
    intro field member
    rw [stringField,stringField,typed field member]
  have insisted : ∀ field ∈ texts, requiredField members field policy = requiredField others field policy := by
    intro field member
    unfold requiredField
    rw [read field member]
  unfold ofMembers
  rw [counted "CreateIndex" (by simp [counters]),counted "ModifyIndex" (by simp [counters]),
    counted "LockIndex" (by simp [counters]),counted "Flags" (by simp [counters]),read "Session" (by simp [texts]),
    insisted "Key" (by simp [texts]),insisted "Value" (by simp [texts])]

theorem ofMembers_agree {members others : Members}
    (agree : ∀ field ∈ names, members.get? field = others.get? field) (policy : MissingFields) :
    ofMembers members policy = ofMembers others policy := by
  refine ofMembers_congr ?_ (fun field member => agree field (List.mem_append_right _ member)) policy
  intro field member
  rw [indexField,indexField,agree field (List.mem_append_left _ member)]

theorem ofText_lists {policy : MissingFields} {source : String} {pairs : List (String × Json)}
    (lists : Json.Reading.Lists source pairs) : ofText policy source = ofMembers (Members.ofList pairs) policy := by
  rw [ofText,Json.ofText,lists.parsed,ok_bind,ofJson_object (Members.ofList_ne_nil lists.ne_nil)]

-- An entry is read if all checks pass, else the first that fails is reported; and of two texts
-- that hold the same under the seven names last the same is read, or the same is reported.
theorem checks_in_order (policy : MissingFields) :
    (∀ v, (∃ e, ofJson policy v = .ok e) ↔ ∃ members, v = .object members ∧ Acceptable policy members) ∧
    (∀ v failure, ofJson policy v = .error failure ↔
      ∃ passed check rest, Check.order = passed ++ check :: rest ∧
        (∀ earlier ∈ passed, ∀ other, ¬Refuses policy v earlier other) ∧ Refuses policy v check failure) ∧
    (∀ source members, Json.parse source = .ok (.object members) → members ≠ [] →
      ∃ pairs, Json.Reading.Lists source pairs) ∧
    (∀ source other pairs others, Json.Reading.Lists source pairs → Json.Reading.Lists other others →
      (∀ field ∈ names, Json.Reading.lastHeld field pairs = Json.Reading.lastHeld field others) →
      ofText policy source = ofText policy other) := by
  refine ⟨fun _ => ofJson_accepts,fun _ _ => ofJson_error,fun _ _ => Json.Reading.lists_of_parse,?_⟩
  -- Reading depends on the last value of each of the seven names, so the order and the other names
  -- are gone.
  intro source other pairs others lists lists' agree
  rw [ofText_lists lists,ofText_lists lists']
  refine ofMembers_agree ?_ policy
  intro field member
  rw [Members.get?_ofList,Members.get?_ofList]
  exact agree field member

-- Three faults in one text, of which the one that is written last comes first.
example : ofText .strict "\x7b\"Value\":\"?\",\"Flags\":\"5\",\"CreateIndex\":-1,\"CreateIndex\":-2\x7d" =
    .error (.range "CreateIndex" "64-bit unsigned integer" "-2") := by
  decide +kernel

end Entry
end ClusterClient
