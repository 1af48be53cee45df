import ClusterClient.Proofs.Json.Parsed
import ClusterClient.Proofs.Split
import ClusterClient.SelfReport
namespace ClusterClient

namespace Json

inductive Reaches : Json → List String → Json → Prop where
  | here : Reaches v [] v
  | step : (key, v) ∈ members → Reaches v path w → Reaches (.object members) (key :: path) w

def Gives (doc : Json) (path : List String) (v : Json) : Prop :=
  Reaches doc path v ∨ (¬∃ w, Reaches doc path w) ∧ v = .null

theorem gives_of_reaches {doc other : Json} {path more : List String}
    (same : ∀ w, Reaches doc path w ↔ Reaches other more w) (v : Json) : Gives doc path v ↔ Gives other more v := by
  unfold Gives
  rw [same v,exists_congr same]

theorem gives_nowhere {doc : Json} {path : List String} (nowhere : ∀ w, ¬Reaches doc path w) (v : Json) :
    Gives doc path v ↔ v = .null := by
  unfold Gives
  rw [or_iff_right (nowhere v),and_iff_right (not_exists.mpr nowhere)]

theorem reaches_step {members : Members} (sorted : members.Sorted) {key : String} {path : List String} {w : Json} :
    Reaches (.object members) (key :: path) w ↔ ∃ v, members.get? key = some v ∧ Reaches v path w := by
  constructor
  · intro reached
    cases reached with
    | step listed later => exact ⟨_,(Members.get?_eq_some sorted).mpr listed,later⟩
  · rintro ⟨v,held,later⟩
    exact .step ((Members.get?_eq_some sorted).mp held) later

theorem Formed.field {depth : Nat} {doc : Json} (formed : Formed depth doc) (key : String) :
    Formed depth (doc.field key) := by
  cases doc with
  | object members =>
    cases depth with
    | zero => exact formed.elim
    | succ depth =>
      rw [Json.field]
      cases held : Members.get? key members with
      | none => trivial
      | some v => exact (formed.2 (key,v) ((Members.get?_eq_some formed.1).mp held)).deeper
  | _ => cases depth <;> trivial

end Json

namespace SelfReport
open Json

theorem descend_null (path : List String) : descend .null path = .null := by
  induction path with
  | nil => rfl
  | cons key path ih => exact ih

theorem descend_formed {depth : Nat} {doc : Json} (formed : Formed depth doc) (path : List String) :
    Formed depth (descend doc path) := by
  induction path generalizing doc with
  | nil => exact formed
  | cons key path ih => exact ih (formed.field key)

theorem gives_iff {depth : Nat} {doc : Json} (formed : Formed depth doc) (path : List String) (v : Json) :
    Gives doc path v ↔ v = descend doc path := by
  induction path generalizing doc with
  | nil =>
    have reached : ∀ w, Reaches doc [] w ↔ w = doc := by
      intro w
      constructor
      · intro reached
        cases reached
        rfl
      · rintro rfl
        exact .here
    unfold Gives
    rw [reached,or_iff_left]
    · rfl
    · rintro ⟨nowhere,_⟩
      exact nowhere ⟨doc,.here⟩
  | cons key path ih =>
    cases doc with
    | object members =>
      -- A parsed object holds each key once, so at most one value can be reached.
      have sorted : Members.Sorted members := by
        cases depth with
        | zero => exact formed.elim
        | succ depth => exact formed.1
      change _ ↔ v = descend ((Json.object members).field key) path
      cases held : Members.get? key members with
      | none =>
        have null : (Json.object members).field key = .null := by rw [Json.field,held]; rfl
        rw [null,descend_null]
        refine gives_nowhere ?_ v
        intro w reached
        obtain ⟨_,found,_⟩ := (reaches_step sorted).mp reached
        cases held.symm.trans found
      | some inside =>
        have found : (Json.object members).field key = inside := by rw [Json.field,held]; rfl
        have inner : Formed depth inside := found ▸ formed.field key
        rw [found,← ih inner]
        refine gives_of_reaches ?_ v
        intro w
        rw [reaches_step sorted,held]
        simp
    | _ =>
      change _ ↔ v = descend .null path
      rw [descend_null]
      refine gives_nowhere ?_ v
      intro w reached
      cases reached

structure Subject where
  label : List String
  path : List String

def Subject.name (subject : Subject) : String := joinNames (root ++ subject.label)

def Subject.line (doc : Json) (subject : Subject) : String :=
  subject.name ++ "=" ++ (descend doc subject.path).text

def Section.subjects (s : Section) : List Subject :=
  s.members.map fun (key, name) => ⟨s.names ++ [name], s.path ++ [key]⟩

def subjects : List Subject := sections.flatMap Section.subjects

theorem toList_joinNames (names : List String) : (joinNames names).toList = Text.join ['.'] (names.map String.toList) := by
  rw [joinNames,String.toList_ofList]

theorem joinNames_concat {names : List String} (listed : names ≠ []) (name : String) :
    joinNames (names ++ [name]) = joinNames names ++ "." ++ name := by
  apply String.toList_injective
  rw [String.toList_append,String.toList_append,toList_joinNames,toList_joinNames,List.map_append,List.map_singleton,
    Text.join_concat _ (List.map_eq_nil_iff.not.mpr listed)]
  rfl

-- The same lines whatever the document is; only what they show differs.
theorem lines_eq (doc : Json) : lines doc = subjects.map (Subject.line doc) := by
  rw [lines,subjects,List.map_flatMap]
  congr 1
  funext s
  rw [Section.lines,Section.subjects,List.map_map]
  refine List.map_congr_left fun member _ => ?_
  obtain ⟨key,name⟩ := member
  have named : Subject.name ⟨s.names ++ [name],s.path ++ [key]⟩ = joinNames (root ++ s.names) ++ "." ++ name := by
    rw [Subject.name,← List.append_assoc]
    exact joinNames_concat (List.append_ne_nil_of_left_ne_nil (List.cons_ne_nil _ _) _) name
  have last : descend doc (s.path ++ [key]) = (descend doc s.path).field key := List.foldl_append
  rw [Function.comp_apply,Subject.line,named,last]
  rfl

def Plain (part : String) : Prop := ∀ c ∈ part.toList, c ≠ '.' ∧ c ≠ '=' ∧ 0x20 ≤ c.toNat

instance : DecidablePred Plain := fun part => List.decidableBAll _ part.toList

theorem root_plain : ∀ part ∈ root, Plain part := by decide +kernel

theorem names_plain : ∀ s ∈ sections, ∀ part ∈ s.names, Plain part := by decide +kernel

theorem members_plain : ∀ s ∈ sections, ∀ member ∈ s.members, Plain member.2 := by decide +kernel

theorem sections_distinct : (sections.map Section.names).Nodup := by decide +kernel

theorem members_distinct : ∀ s ∈ sections, (s.members.map Prod.snd).Nodup := by decide +kernel

theorem label_plain {subject : Subject} (member : subject ∈ subjects) : ∀ part ∈ root ++ subject.label, Plain part := by
  obtain ⟨s,listed,inside⟩ := List.mem_flatMap.mp member
  obtain ⟨⟨key,name⟩,taken,rfl⟩ := List.mem_map.mp inside
  refine List.forall_mem_append.mpr ⟨root_plain,List.forall_mem_append.mpr ⟨names_plain s listed,?_⟩⟩
  exact List.forall_mem_singleton.mpr (members_plain s listed _ taken)

theorem labels_distinct : (subjects.map Subject.label).Nodup := by
  rw [subjects,List.map_flatMap,List.nodup_flatMap]
  constructor
  · intro s listed
    have same : s.subjects.map Subject.label = (s.members.map Prod.snd).map (s.names ++ [·]) := by
      rw [Section.subjects,List.map_map,List.map_map]
      rfl
    rw [same]
    refine (members_distinct s listed).map fun name other same => ?_
    exact List.singleton_inj.mp (List.append_cancel_left same)
  · refine (List.pairwise_map.mp sections_distinct).imp fun {s other} differ => ?_
    refine List.disjoint_left.mpr fun label here there => differ ?_
    obtain ⟨subject,listed,rfl⟩ := List.mem_map.mp here
    obtain ⟨member,_,rfl⟩ := List.mem_map.mp listed
    obtain ⟨subject,listed,same⟩ := List.mem_map.mp there
    obtain ⟨member,_,rfl⟩ := List.mem_map.mp listed
    exact (List.append_inj_left' same rfl).symm

theorem split_name {subject : Subject} (member : subject ∈ subjects) :
    Text.split '.' subject.name.toList = (root ++ subject.label).map String.toList := by
  rw [Subject.name,toList_joinNames]
  refine Text.split_join (List.cons_ne_nil _ _) (List.forall_mem_map.mpr fun part inside dot => ?_)
  exact (label_plain member part inside _ dot).1 rfl

theorem names_distinct : (subjects.map Subject.name).Nodup := by
  have distinct := List.Nodup.of_map Subject.label labels_distinct
  refine distinct.map_on fun subject listed other listedOther same => ?_
  have parts : (root ++ subject.label).map String.toList = (root ++ other.label).map String.toList := by
    rw [← split_name listed,← split_name listedOther,same]
  have labels := List.append_cancel_left (List.map_injective_iff.mpr (fun _ _ => String.toList_injective) parts)
  exact List.inj_on_of_nodup_map labels_distinct listed listedOther labels

theorem name_plain {subject : Subject} (member : subject ∈ subjects) :
    ∀ c ∈ subject.name.toList, c ≠ '=' ∧ 0x20 ≤ c.toNat := by
  intro c inside
  rw [Subject.name,toList_joinNames] at inside
  rcases Text.mem_join inside with dot | ⟨piece,listed,inside⟩
  · rw [List.mem_singleton.mp dot]
    decide
  · obtain ⟨part,taken,rfl⟩ := List.mem_map.mp listed
    exact (label_plain member part taken c inside).2

def named (line : String) : String := String.ofList (line.toList.takeWhile (· != '='))

def shown (line : String) : String := String.ofList ((line.toList.dropWhile (· != '=')).drop 1)

theorem cut_line {name : String} (free : '=' ∉ name.toList) (text : String) :
    named (name ++ "=" ++ text) = name ∧ shown (name ++ "=" ++ text) = text := by
  have cut : Text.Cut '=' ('=' :: text.toList) := by simp [Text.Cut]
  obtain ⟨front,back⟩ := Text.cut_here free cut
  have whole : (name ++ "=" ++ text).toList = name.toList ++ '=' :: text.toList := by
    simp [String.toList_append]
  rw [named,shown,whole,front,back]
  exact ⟨String.ofList_toList,String.ofList_toList⟩

-- One line for each subject. It shows what the document gives for the subject, on one line and so
-- that it is read as that again, unless it would be read as a number.
theorem line_tells {doc : Json} (formed : Formed Reader.maxDepth doc) {subject : Subject} (member : subject ∈ subjects) :
    let v := descend doc subject.path
    let line := subject.line doc
    (∀ w, Gives doc subject.path w ↔ w = v) ∧ named line = subject.name ∧ shown line = v.text ∧
      Printing.Visible line.toList ∧ (¬HoldsKey Reader.numberKey v → parse (shown line) = .ok v) := by
  intro v line
  obtain ⟨front,back⟩ := cut_line (fun equals => (name_plain member _ equals).1 rfl) v.text
  refine ⟨gives_iff formed subject.path,front,back,?_,?_⟩
  · have whole : line.toList = subject.name.toList ++ (['='] ++ v.text.toList) := by
      rw [← List.append_assoc]
      simp only [line,Subject.line,String.toList_append]
      rfl
    rw [whole,Printing.visible_append,Printing.visible_append]
    refine ⟨fun c inside => (name_plain member c inside).2,?_,Printing.text_visible v⟩
    simp [Printing.Visible]
  · intro plain
    rw [show shown line = v.text from back]
    exact (descend_formed formed subject.path).parse_text plain

-- The lines are a projection of the document: of fixed names, faithful to what the paths give, and
-- blind to everything else.
theorem lines_project :
    (subjects.map Subject.name).Nodup ∧
    ∀ source doc, parse source = .ok doc →
      (lines doc).map named = subjects.map Subject.name ∧
      List.Forall₂ (fun subject line => ∃ v, (∀ w, Gives doc subject.path w ↔ w = v) ∧ shown line = v.text ∧
        Printing.Visible line.toList ∧ (¬HoldsKey Reader.numberKey v → parse (shown line) = .ok v))
        subjects (lines doc) ∧
      ∀ otherSource other, parse otherSource = .ok other →
        (∀ subject ∈ subjects, ∀ v, Gives doc subject.path v ↔ Gives other subject.path v) →
        lines other = lines doc := by
  refine ⟨names_distinct,fun source doc parsed => ?_⟩
  have formed := parse_formed parsed
  have told := fun subject (member : subject ∈ subjects) => line_tells formed member
  rw [lines_eq]
  refine ⟨?_,?_,?_⟩
  · rw [List.map_map]
    exact List.map_congr_left fun subject member => (told subject member).2.1
  · rw [List.forall₂_map_right_iff,List.forall₂_same]
    intro subject member
    obtain ⟨gives,_,shows,visible,again⟩ := told subject member
    exact ⟨_,gives,shows,visible,again⟩
  · intro otherSource other parsedOther agree
    rw [lines_eq]
    refine List.map_congr_left fun subject member => ?_
    have same := (gives_iff formed subject.path _).mp
      ((agree subject member _).mpr ((gives_iff (parse_formed parsedOther) subject.path _).mpr rfl))
    rw [Subject.line,Subject.line,same]

theorem subjects_below : ∀ subject ∈ subjects, ∃ key ∈ ["Config", "Coord", "Member"], subject.path.head? = some key := by
  decide +kernel

theorem gives_below {doc other : Json} {depth : Nat} (formed : Formed depth doc) (formedOther : Formed depth other)
    (same : ∀ key ∈ ["Config", "Coord", "Member"], doc.field key = other.field key) :
    ∀ subject ∈ subjects, ∀ v, Gives doc subject.path v ↔ Gives other subject.path v := by
  intro subject member v
  obtain ⟨key,listed,first⟩ := subjects_below subject member
  obtain ⟨path,below⟩ := List.head?_eq_some_iff.mp first
  rw [gives_iff formed,gives_iff formedOther,below]
  change v = descend (doc.field key) path ↔ v = descend (other.field key) path
  rw [same key listed]

theorem lines_project_stats :
    let shared := ("Coord",Json.object [("Vec",.string "1\n2")])
    let doc := Json.object [shared]
    let more := Json.object [shared,("Stats",.null)]
    parse doc.text = .ok doc ∧ parse more.text = .ok more ∧ (lines doc).length = 111 ∧ lines more = lines doc := by
  intro shared doc more
  have inside : Formed 126 shared.2 := ⟨List.pairwise_singleton _ _,List.forall_mem_singleton.mpr trivial⟩
  have formed : Formed Reader.maxDepth doc := ⟨List.pairwise_singleton _ _,List.forall_mem_singleton.mpr inside⟩
  have formedMore : Formed Reader.maxDepth more :=
    ⟨List.pairwise_pair.mpr (by decide),List.forall_mem_cons.mpr ⟨inside,List.forall_mem_singleton.mpr trivial⟩⟩
  have printed : Printing.Printable 126 shared.2 := ⟨by rintro _ ⟨⟩; decide,List.forall_mem_singleton.mpr trivial⟩
  have printable : Printing.Printable Reader.maxDepth doc :=
    ⟨by rintro _ ⟨⟩; decide,List.forall_mem_singleton.mpr printed⟩
  have printableMore : Printing.Printable Reader.maxDepth more :=
    ⟨by rintro _ ⟨⟩; decide,List.forall_mem_cons.mpr ⟨printed,List.forall_mem_singleton.mpr trivial⟩⟩
  have parsed := formed.parse_printed printable
  have parsedMore := formedMore.parse_printed printableMore
  obtain ⟨names,_,alike⟩ := lines_project.2 doc.text doc parsed
  refine ⟨parsed,parsedMore,?_,alike more.text more parsedMore (gives_below formed formedMore ?_)⟩
  · rw [← List.length_map named,names,List.length_map]
    decide +kernel
  · intro key listed
    simp only [List.mem_cons,List.not_mem_nil,or_false] at listed
    rcases listed with rfl | rfl | rfl <;> rfl

end SelfReport
end ClusterClient
