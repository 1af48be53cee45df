import ClusterClient.Proofs.Blank
import ClusterClient.Proofs.Pattern
import ClusterClient.Proofs.Peer.Address
import ClusterClient.Settings.Basic
import Mathlib.Data.String.Basic
namespace ClusterClient

namespace HostName
variable {c : Char} {cs : List Char} {host : String}

structure IsLabel (label : List Char) : Prop where
  listed : 1 ≤ label.length
  short : label.length ≤ 63
  plain : ∀ c ∈ label, c.isAlphanum = true ∨ c = '-'
  first : label.head? ≠ some '-'
  last : label.getLast? ≠ some '-'

structure IsProper (host : String) : Prop where
  listed : 1 ≤ host.length
  short : host.length ≤ 255
  labels : ∀ label ∈ Text.split '.' host.toList, IsLabel label

theorem isAlphanum_iff : c.isAlphanum = true ↔
    (('A'.val ≤ c.val ∧ c.val ≤ 'Z'.val) ∨ ('a'.val ≤ c.val ∧ c.val ≤ 'z'.val)) ∨
      ('0'.val ≤ c.val ∧ c.val ≤ '9'.val) := by
  have parts : c.isAlphanum =
      ((decide ('A'.val ≤ c.val ∧ c.val ≤ 'Z'.val) || (decide ('a'.val ≤ c.val) && decide (c.val ≤ 'z'.val))) ||
        (decide ('0'.val ≤ c.val) && decide (c.val ≤ '9'.val))) := rfl
  simp only [parts,Bool.or_eq_true,Bool.and_eq_true,decide_eq_true_eq]

theorem inRuns_edge : Pattern.inRuns edge c = true ↔ c.isAlphanum = true := by
  rw [isAlphanum_iff]
  simp only [Pattern.inRuns,edge,List.any_cons,List.any_nil,Bool.or_false,Bool.or_eq_true,Bool.and_eq_true,
    decide_eq_true_eq,Char.le_def,or_assoc]

theorem inRuns_inner : Pattern.inRuns inner c = true ↔ c.isAlphanum = true ∨ c = '-' := by
  have hyphen : '-' ≤ c ∧ c ≤ '-' ↔ c = '-' := antisymm_iff.trans eq_comm
  have parts : Pattern.inRuns inner c = true ↔ Pattern.inRuns edge c = true ∨ ('-' ≤ c ∧ c ≤ '-') := by
    simp [Pattern.inRuns,inner]
  rw [parts,inRuns_edge,hyphen]

theorem plain_bounds (plain : c.isAlphanum = true) : 48 ≤ c.toNat ∧ c.toNat ≤ 122 := by
  have code : c.toNat = c.val.toNat := rfl
  have upper : 'A'.val.toNat = 65 ∧ 'Z'.val.toNat = 90 := ⟨rfl,rfl⟩
  have lower : 'a'.val.toNat = 97 ∧ 'z'.val.toNat = 122 := ⟨rfl,rfl⟩
  have digit : '0'.val.toNat = 48 ∧ '9'.val.toNat = 57 := ⟨rfl,rfl⟩
  simp only [isAlphanum_iff,UInt32.le_iff_toNat_le] at plain
  omega

theorem ascii (plain : c.isAlphanum = true) : c.val ≤ 127 :=
  UInt32.le_iff_toNat_le.mpr (Nat.le_trans (plain_bounds plain).2 (by decide))

theorem not_hyphen (plain : c.isAlphanum = true) : c ≠ '-' := by
  intro same
  subst same
  cases plain

theorem isLabel_single : IsLabel [c] ↔ c.isAlphanum = true := by
  constructor
  · intro proper
    have other : c ≠ '-' := fun same => proper.first (congrArg some same)
    exact (proper.plain c List.mem_cons_self).resolve_right other
  · intro plain
    have other : some c ≠ some '-' := fun same => not_hyphen plain (Option.some.inj same)
    exact ⟨Nat.le_refl 1,by simp,List.forall_mem_singleton.mpr (Or.inl plain),other,other⟩

theorem isLabel_ends {d : Char} : IsLabel (c :: (cs ++ [d])) ↔
    c.isAlphanum = true ∧ (cs.length ≤ 61 ∧ ∀ c ∈ cs, c.isAlphanum = true ∨ c = '-') ∧ d.isAlphanum = true := by
  have last : (c :: (cs ++ [d])).getLast? = some d := by rw [← List.cons_append,List.getLast?_concat]
  have size : (c :: (cs ++ [d])).length = cs.length + 2 := by simp
  have members : (∀ x ∈ c :: (cs ++ [d]), x.isAlphanum = true ∨ x = '-') ↔
      (c.isAlphanum = true ∨ c = '-') ∧ (∀ x ∈ cs, x.isAlphanum = true ∨ x = '-') ∧ (d.isAlphanum = true ∨ d = '-') := by
    simp [or_imp,forall_and]
  constructor
  · intro proper
    obtain ⟨left,between,right⟩ := members.mp proper.plain
    have short := proper.short
    rw [size] at short
    refine ⟨left.resolve_right ?_,⟨by omega,between⟩,right.resolve_right ?_⟩
    · exact fun same => proper.first (congrArg some same)
    · exact fun same => proper.last (last.trans (congrArg some same))
  · intro ⟨left,⟨short,between⟩,right⟩
    constructor
    · omega
    · omega
    · exact members.mpr ⟨Or.inl left,between,Or.inl right⟩
    · exact fun same => not_hyphen left (Option.some.inj same)
    · exact fun same => not_hyphen right (Option.some.inj (last.symm.trans same))

theorem mem_label : cs ∈ label.language ↔ IsLabel cs := by
  -- The pattern takes a label apart at both ends, which leaves one of a single character by itself.
  have ends : cs ∈ label.language ↔
      (∃ c, cs = [c] ∧ c.isAlphanum = true) ∨
      ∃ c mid d, cs = c :: (mid ++ [d]) ∧ c.isAlphanum = true ∧
        (mid.length ≤ 61 ∧ ∀ c ∈ mid, c.isAlphanum = true ∨ c = '-') ∧ d.isAlphanum = true := by
    rw [label,Pattern.mem_both]
    constructor
    · rintro ⟨_,⟨c,rfl,left⟩,back,rest,rfl⟩
      rw [inRuns_edge] at left
      rcases Pattern.mem_optional.mp rest with rfl | more
      · exact Or.inl ⟨c,rfl,left⟩
      · obtain ⟨mid,⟨short,between⟩,_,⟨d,rfl,right⟩,rfl⟩ := Pattern.mem_both.mp more
        refine Or.inr ⟨c,mid,d,rfl,left,⟨short,?_⟩,inRuns_edge.mp right⟩
        exact fun x member => inRuns_inner.mp (between x member)
    · rintro (⟨c,rfl,left⟩ | ⟨c,mid,d,rfl,left,⟨short,between⟩,right⟩)
      · exact ⟨[c],⟨c,rfl,inRuns_edge.mpr left⟩,[],Or.inl rfl,rfl⟩
      · refine ⟨[c],⟨c,rfl,inRuns_edge.mpr left⟩,mid ++ [d],Or.inr ?_,rfl⟩
        refine Language.append_mem_mul ⟨short,?_⟩ ⟨d,rfl,inRuns_edge.mpr right⟩
        exact fun x member => inRuns_inner.mpr (between x member)
  rw [ends]
  constructor
  · rintro (⟨c,rfl,left⟩ | ⟨c,mid,d,rfl,parts⟩)
    · exact isLabel_single.mpr left
    · exact isLabel_ends.mpr parts
  · intro proper
    obtain ⟨c,rest,rfl⟩ := List.exists_cons_of_length_pos proper.listed
    rcases List.eq_nil_or_concat rest with rfl | ⟨mid,d,rfl⟩
    · exact Or.inl ⟨c,rfl,isLabel_single.mp proper⟩
    · rw [List.concat_eq_append] at proper ⊢
      exact Or.inr ⟨c,mid,d,rfl,isLabel_ends.mp proper⟩

theorem dot_not_mem (proper : IsLabel cs) : '.' ∉ cs := by
  intro member
  rcases proper.plain '.' member with plain | hyphen
  · cases plain
  · cases hyphen

theorem mem_dotted {part : List Char} : part ∈ (Pattern.both (.exactly '.') label).language ↔
    ∃ label, '.' :: label = part ∧ IsLabel label := by
  rw [Pattern.mem_both]
  constructor
  · rintro ⟨_,rfl,rest,proper,whole⟩
    exact ⟨rest,whole,mem_label.mp proper⟩
  · rintro ⟨rest,whole,proper⟩
    exact ⟨['.'],rfl,rest,mem_label.mpr proper,whole⟩

theorem mem_dots : cs ∈ (Pattern.many (.both (.exactly '.') label)).language ↔
    ∃ labels : List (List Char), cs = labels.flatMap ('.' :: ·) ∧ ∀ label ∈ labels, IsLabel label := by
  rw [Pattern.mem_many]
  constructor
  · rintro ⟨parts,rfl,each⟩
    induction parts with
    | nil => exact ⟨[],rfl,List.forall_mem_nil _⟩
    | cons part rest ih =>
      obtain ⟨here,later⟩ := List.forall_mem_cons.mp each
      obtain ⟨label,rfl,proper⟩ := mem_dotted.mp here
      obtain ⟨labels,whole,all⟩ := ih later
      exact ⟨label :: labels,by simp [whole],List.forall_mem_cons.mpr ⟨proper,all⟩⟩
  · rintro ⟨labels,rfl,all⟩
    refine ⟨labels.map ('.' :: ·),List.flatMap_def,?_⟩
    refine List.forall_mem_map.mpr ?_
    exact fun label member => mem_dotted.mpr ⟨label,rfl,all label member⟩

theorem mem_name : cs ∈ name.language ↔ ∀ label ∈ Text.split '.' cs, IsLabel label := by
  rw [name,Pattern.mem_both]
  constructor
  · rintro ⟨first,inFirst,_,more,rfl⟩
    obtain ⟨labels,rfl,all⟩ := mem_dots.mp more
    have proper := List.forall_mem_cons.mpr ⟨mem_label.mp inFirst,all⟩
    rw [← Text.join_eq_flatMap,Text.split_join (List.cons_ne_nil _ _) fun label member => dot_not_mem (proper label member)]
    exact proper
  · intro proper
    obtain ⟨first,labels,cut⟩ := List.exists_cons_of_ne_nil (Text.split_ne_nil '.' cs)
    rw [cut] at proper
    obtain ⟨here,all⟩ := List.forall_mem_cons.mp proper
    refine ⟨first,mem_label.mpr here,_,mem_dots.mpr ⟨labels,rfl,all⟩,?_⟩
    rw [← Text.join_eq_flatMap,← cut,Text.join_split]

theorem isName_iff : isName host = true ↔ ∀ label ∈ Text.split '.' host.toList, IsLabel label := by
  rw [isName,Pattern.accepts_iff,mem_name]

theorem mem_labels (proper : ∀ label ∈ Text.split '.' cs, IsLabel label) :
    ∀ c ∈ cs, c = '.' ∨ c.isAlphanum = true ∨ c = '-' := by
  intro c member
  rw [← Text.join_split '.' cs] at member
  rcases Text.mem_join member with dot | ⟨label,listed,inside⟩
  · exact Or.inl (List.mem_singleton.mp dot)
  · exact Or.inr ((proper label listed).plain c inside)

theorem mem_plain (proper : ∀ label ∈ Text.split '.' cs, IsLabel label) {other : Char}
    (foreign : other ≠ '.' ∧ other.isAlphanum = false ∧ other ≠ '-') : other ∉ cs := by
  intro member
  rcases mem_labels proper other member with dot | plain | hyphen
  · exact foreign.1 dot
  · rw [foreign.2.1] at plain
    cases plain
  · exact foreign.2.2 hyphen

theorem size_of_plain (plain : ∀ c ∈ host.toList, c.utf8Size = 1) : host.utf8ByteSize = host.length := by
  rw [← String.utf8Len_toList,← String.length_toList]
  generalize host.toList = cs at plain
  induction cs with
  | nil => rfl
  | cons c rest ih =>
    obtain ⟨here,later⟩ := List.forall_mem_cons.mp plain
    rw [String.utf8Len_cons,ih later,here,List.length_cons]

theorem size_of_labels (proper : ∀ label ∈ Text.split '.' host.toList, IsLabel label) :
    host.utf8ByteSize = host.length := by
  apply size_of_plain
  intro c member
  rw [Char.utf8Size_eq_one_iff]
  rcases mem_labels proper c member with rfl | plain | rfl
  · decide
  · exact ascii plain
  · decide

theorem visible (plain : c = '.' ∨ c.isAlphanum = true ∨ c = '-') : Text.isBlank c = false := by
  have bounds : 45 ≤ c.toNat ∧ c.toNat ≤ 122 := by
    rcases plain with rfl | plain | rfl
    · decide
    · have := plain_bounds plain
      omega
    · decide
  rw [Bool.eq_false_iff]
  simp only [Text.isBlank,ne_eq,Bool.or_eq_true,Bool.and_eq_true,decide_eq_true_eq,beq_iff_eq]
  omega

theorem IsProper.trimmed (proper : IsProper host) : Text.Trimmed host :=
  Text.trimmed_of_forall fun c member => visible (mem_labels proper.labels c member)

theorem IsProper.ne_empty (proper : IsProper host) : host ≠ "" := by
  rintro rfl
  exact absurd proper.listed (by decide)

end HostName

namespace Settings
open HostName (IsProper IsLabel)
variable {settings : Settings}

def Breaks (settings : Settings) : Violation → Prop
  | .hostEmpty => settings.host.utf8ByteSize < 1
  | .hostTooLong => 255 < settings.host.utf8ByteSize
  | .hostPattern => HostName.isName settings.host = false
  | .portZero => settings.port.toNat < 1
  | .timeoutZero => settings.timeoutMs.toNat < 1
  | .timeoutTooLong => 65535 < settings.timeoutMs.toNat

theorem mem_violations {v : Violation} : v ∈ settings.violations ↔ settings.Breaks v := by
  cases v <;> simp [violations,Breaks,UInt16.lt_iff_toNat_lt,UInt32.lt_iff_toNat_lt]

def hostViolations : List Violation := [.hostEmpty,.hostTooLong,.hostPattern]

theorem host_checked : (∀ v ∈ hostViolations, v ∉ settings.violations) ↔ IsProper settings.host := by
  have checks : (∀ v ∈ hostViolations, v ∉ settings.violations) ↔ 1 ≤ settings.host.utf8ByteSize ∧
      settings.host.utf8ByteSize ≤ 255 ∧ HostName.isName settings.host = true := by
    simp [hostViolations,mem_violations,Breaks,Nat.one_le_iff_ne_zero]
  rw [checks,HostName.isName_iff]
  constructor
  · intro ⟨listed,short,labels⟩
    rw [HostName.size_of_labels labels] at listed short
    exact ⟨listed,short,labels⟩
  · intro proper
    rw [HostName.size_of_labels proper.labels]
    exact ⟨proper.listed,proper.short,proper.labels⟩

theorem violations_eq_nil : settings.violations = [] ↔
    IsProper settings.host ∧ 1 ≤ settings.port.toNat ∧
      1 ≤ settings.timeoutMs.toNat ∧ settings.timeoutMs.toNat ≤ 65535 := by
  rw [← host_checked,List.eq_nil_iff_forall_not_mem]
  constructor
  · intro none
    have kept : ∀ v, ¬settings.Breaks v := fun v => mem_violations.not.mp (none v)
    refine ⟨fun v _ => none v,?_⟩
    exact ⟨Nat.not_lt.mp (kept .portZero),Nat.not_lt.mp (kept .timeoutZero),Nat.not_lt.mp (kept .timeoutTooLong)⟩
  · intro ⟨host,port,least,most⟩ v
    cases v with
    | hostEmpty => exact host .hostEmpty (by decide)
    | hostTooLong => exact host .hostTooLong (by decide)
    | hostPattern => exact host .hostPattern (by decide)
    | portZero => exact mem_violations.not.mpr (Nat.not_lt.mpr port)
    | timeoutZero => exact mem_violations.not.mpr (Nat.not_lt.mpr least)
    | timeoutTooLong => exact mem_violations.not.mpr (Nat.not_lt.mpr most)

theorem agent_text (settings : Settings) :
    settings.agent.text = Peer.text { host := settings.host, port := settings.port } := by
  rw [agent]
  cases settings.cluster <;> rfl

-- A host passes exactly if it is a name of the rule, which is what its pattern and its length come
-- to together. Such a name is free of colons, so the address it is written in tells it and the port.
theorem names_unambiguous (settings : Settings) :
    (HostName.name.accepts settings.host = true ↔
      ∀ label ∈ Text.split '.' settings.host.toList, IsLabel label) ∧
    ((∀ v ∈ hostViolations, v ∉ settings.violations) ↔ IsProper settings.host) ∧
    (settings.violations = [] ↔ IsProper settings.host ∧ 1 ≤ settings.port.toNat ∧
      1 ≤ settings.timeoutMs.toNat ∧ settings.timeoutMs.toNat ≤ 65535) ∧
    (IsProper settings.host →
      Peer.ofText settings.agent.text = .ok { host := settings.host, port := settings.port }) := by
  refine ⟨HostName.isName_iff,host_checked,violations_eq_nil,?_⟩
  intro proper
  rw [agent_text]
  exact Peer.ofText_text (HostName.mem_plain proper.labels (by decide))

theorem names_unambiguous_longest :
    let longest := String.ofList ('x' :: List.replicate 61 '-' ++ ['1'])
    let settings : Settings := { host := longest ++ ".a-b.0", port := 1, cluster := some "" }
    IsProper settings.host ∧
      Peer.ofText settings.agent.text = .ok { host := settings.host, port := 1 } ∧
      ¬IsProper (longest ++ "x") ∧ ¬IsProper "a." ∧ ¬IsProper "a\n" := by
  intro longest settings
  obtain ⟨_,_,accepted,read⟩ := names_unambiguous settings
  have proper := (accepted.mp (by decide +kernel)).1
  have refused : ∀ host : String, .hostPattern ∈ violations { host } → ¬IsProper host :=
    fun host broken kept => (names_unambiguous { host }).2.1.mpr kept .hostPattern (by decide) broken
  exact ⟨proper,read proper,refused _ (by decide +kernel),refused _ (by decide +kernel),refused _ (by decide +kernel)⟩

end Settings
end ClusterClient
