import ClusterClient.Entry.Query
import ClusterClient.Proofs.Decimal
import ClusterClient.Proofs.Percent
import ClusterClient.Proofs.Split
namespace ClusterClient.Query

def setText : Option String → Option String
  | some s => if s = "" then none else some s
  | none => none

def meant (query : Query) : Query :=
  { query with cluster := setText query.cluster, acquire := setText query.acquire, release := setText query.release }

abbrev Parameter := String × Option String

def parameter (name : String) (value : Option (Option String)) : List Parameter :=
  value.toList.map fun v => (name, v)

def given (query : Query) : List Parameter :=
  parameter "dc" ((setText query.cluster).map some) ++ parameter "recurse" (if query.recurse then some none else none) ++
    parameter "cas" (query.cas.map fun n => some (Decimal.text n.toNat)) ++
    parameter "flags" (query.flags.map fun n => some (Decimal.text n.toNat)) ++
    parameter "acquire" ((setText query.acquire).map some) ++ parameter "release" ((setText query.release).map some)

def names : List String := ["dc", "recurse", "cas", "flags", "acquire", "release"]

def writePart : Parameter → List Char
  | (name, none) => name.toList
  | (name, some value) => name.toList ++ '=' :: Percent.encode Percent.isUnreserved value.toList

-- A part is cut at its first equals sign; a part without one has no value.
def readPart? (part : List Char) : Option (String × Option (List UInt8)) :=
  match part.dropWhile (· != '=') with
  | [] => some (String.ofList part, none)
  | _ :: value =>
    match Percent.decode? value with
    | some bytes => some (String.ofList (part.takeWhile (· != '=')), some bytes)
    | none => none

def pieces (text : String) : List (List Char) := if text = "" then [] else Text.split '&' text.toList

def readBack? (text : String) : Option (List (String × Option (List UInt8))) := (pieces text).mapM readPart?

-- A parameter as it is read: a value is known by its bytes.
def seen (p : Parameter) : String × Option (List UInt8) := (p.1, p.2.map Utf8.bytes)

theorem names_plain {name : String} (listed : name ∈ names) :
    (∀ c ∈ name.toList, Percent.Unreserved c) ∧ name.toList ≠ [] := by
  have letters : ∀ name ∈ names, name.toList.all (fun c => decide (Percent.Unreserved c)) = true ∧ name.toList ≠ [] := by
    decide +kernel
  obtain ⟨plain,filled⟩ := letters name listed
  exact ⟨fun c inside => of_decide_eq_true (List.all_eq_true.mp plain c inside),filled⟩

theorem given_named {query : Query} : ∀ p ∈ query.given, p.1 ∈ names := by
  intro p member
  simp only [given,parameter,List.mem_append,List.mem_map] at member
  rcases member with ((((⟨_,_,rfl⟩ | ⟨_,_,rfl⟩) | ⟨_,_,rfl⟩) | ⟨_,_,rfl⟩) | ⟨_,_,rfl⟩) | ⟨_,_,rfl⟩ <;>
    simp [names]

theorem digits_kept (n : Nat) : Percent.encode Percent.isUnreserved (Decimal.text n).toList = (Decimal.text n).toList := by
  have kept : ∀ d : Fin 10, Percent.isUnreserved (Decimal.digitChar d) = true := by decide
  refine Percent.encode_kept ?_
  intro c member
  rw [Decimal.text,String.toList_ofList] at member
  obtain ⟨d,_,rfl⟩ := List.mem_map.mp member
  exact kept d

theorem textPart_eq (name : String) (value : Option String) :
    textPart name value = (parameter name ((setText value).map some)).map writePart := by
  cases value with
  | none => rfl
  | some s =>
    by_cases empty : s = ""
    · simp [textPart,setText,parameter,empty]
    · simp [textPart,setText,parameter,writePart,empty]

theorem wordPart_eq (name : String) (value : Option UInt64) :
    wordPart name value = (parameter name (value.map fun n => some (Decimal.text n.toNat))).map writePart := by
  cases value with
  | none => rfl
  | some n => simp [wordPart,parameter,writePart,digits_kept]

theorem parts_eq_map (query : Query) : query.parts = query.given.map writePart := by
  simp only [parts,given,List.map_append,textPart_eq,wordPart_eq]
  cases query.recurse <;> rfl

theorem writePart_mem {p : Parameter} (named : p.1 ∈ names) {c : Char} (member : c ∈ writePart p) :
    Percent.Unreserved c ∨ c = '%' ∨ Percent.HexDigit c ∨ c = '=' := by
  have plain := (names_plain named).1
  obtain ⟨name,value⟩ := p
  cases value with
  | none => exact Or.inl (plain c member)
  | some value =>
    simp only [writePart,List.mem_append,List.mem_cons] at member
    rcases member with front | equals | back
    · exact Or.inl (plain c front)
    · exact Or.inr (Or.inr (Or.inr equals))
    · have coded := (Percent.encode_coded (fun _ kept => Percent.isUnreserved_iff.mp kept) value.toList).mem back
      exact coded.imp id (Or.imp id Or.inl)

theorem writePart_free {p : Parameter} (named : p.1 ∈ names) : '&' ∉ writePart p := by
  intro member
  have plain := writePart_mem named member
  revert plain
  decide

theorem writePart_ne_nil {p : Parameter} (named : p.1 ∈ names) : writePart p ≠ [] := by
  have some_name := (names_plain named).2
  obtain ⟨name,value⟩ := p
  cases value with
  | none => exact some_name
  | some value => exact List.append_ne_nil_of_left_ne_nil some_name _

theorem readPart?_writePart {p : Parameter} (named : p.1 ∈ names) : readPart? (writePart p) = some (seen p) := by
  have equals : '=' ∉ p.1.toList := by
    intro member
    have plain := (names_plain named).1 _ member
    revert plain
    decide
  obtain ⟨name,value⟩ := p
  cases value with
  | none =>
    have ends : Text.Cut '=' [] := by simp [Text.Cut]
    have whole := (Text.cut_here equals ends).2
    rw [List.append_nil] at whole
    simp only [writePart,readPart?,whole,String.ofList_toList,seen,Option.map_none]
  | some value =>
    have ends : Text.Cut '=' ('=' :: Percent.encode Percent.isUnreserved value.toList) := by simp [Text.Cut]
    obtain ⟨front,back⟩ := Text.cut_here equals ends
    have read : Percent.decode? (Percent.encode Percent.isUnreserved value.toList) = some (Utf8.encode value.toList) :=
      Percent.decode?_encode (by decide) _
    simp only [writePart,readPart?,front,back,read,String.ofList_toList,seen,Option.map_some,Utf8.bytes]

theorem text_toList (query : Query) : query.text.toList = Text.join ['&'] (query.given.map writePart) := by
  rw [text,String.toList_ofList,parts_eq_map]

theorem text_mem {query : Query} {c : Char} (member : c ∈ query.text.toList) :
    Percent.Unreserved c ∨ c = '%' ∨ Percent.HexDigit c ∨ c = '=' ∨ c = '&' := by
  rw [text_toList] at member
  rcases Text.mem_join member with joint | ⟨piece,listed,inside⟩
  · exact Or.inr (Or.inr (Or.inr (Or.inr (List.mem_singleton.mp joint))))
  · obtain ⟨p,isGiven,rfl⟩ := List.mem_map.mp listed
    exact (writePart_mem (given_named p isGiven) inside).imp id (Or.imp id (Or.imp id Or.inl))

theorem text_free (query : Query) : '?' ∉ query.text.toList := by
  intro member
  have plain := text_mem member
  revert plain
  decide

theorem text_eq_empty {query : Query} : query.text = "" ↔ query.given = [] := by
  rw [← String.toList_eq_nil_iff,text_toList]
  constructor
  · intro empty
    cases listed : query.given with
    | nil => rfl
    | cons p rest =>
      have some_part := writePart_ne_nil (given_named p (listed ▸ List.mem_cons_self))
      rw [listed] at empty
      cases rest with
      | nil => exact absurd empty some_part
      | cons q more =>
        rw [List.map_cons,List.map_cons,Text.join,List.append_assoc] at empty
        exact absurd (List.append_eq_nil_iff.mp empty).1 some_part
  · intro empty
    rw [empty]
    rfl

theorem pieces_text (query : Query) : pieces query.text = query.given.map writePart := by
  rw [pieces]
  split
  · rename_i empty
    rw [text_eq_empty.mp empty]
    rfl
  · rename_i some_text
    rw [text_toList]
    refine Text.split_join ?_ ?_
    · intro none_given
      exact some_text (text_eq_empty.mpr (List.map_eq_nil_iff.mp none_given))
    · intro piece listed
      obtain ⟨p,isGiven,rfl⟩ := List.mem_map.mp listed
      exact writePart_free (given_named p isGiven)

theorem mapM_written {parameters : List Parameter} (named : ∀ p ∈ parameters, p.1 ∈ names) :
    (parameters.map writePart).mapM readPart? = some (parameters.map seen) := by
  induction parameters with
  | nil => rfl
  | cons p rest ih =>
    obtain ⟨here,later⟩ := List.forall_mem_cons.mp named
    rw [List.map_cons,List.mapM_cons,readPart?_writePart here,ih later]
    rfl

theorem readBack?_text (query : Query) : readBack? query.text = some (query.given.map seen) := by
  rw [readBack?,pieces_text,mapM_written given_named]

def valueOf (name : String) (parameters : List Parameter) : Option (Option String) :=
  (parameters.find? (fun p => p.1 = name)).map (·.2)

def ofGiven (parameters : List Parameter) : Query where
  cluster := (valueOf "dc" parameters).join
  recurse := (valueOf "recurse" parameters).isSome
  cas := (valueOf "cas" parameters).join.bind Decimal.word64?
  flags := (valueOf "flags" parameters).join.bind Decimal.word64?
  acquire := (valueOf "acquire" parameters).join
  release := (valueOf "release" parameters).join

theorem valueOf_append (name : String) (front back : List Parameter) :
    valueOf name (front ++ back) = (valueOf name front).or (valueOf name back) := by
  rw [valueOf,List.find?_append]
  unfold valueOf
  cases front.find? (fun p => p.1 = name) <;> rfl

theorem valueOf_parameter (name other : String) (value : Option (Option String)) :
    valueOf name (parameter other value) = if other = name then value else none := by
  cases value with
  | none => simp [valueOf,parameter]
  | some v => by_cases same : other = name <;> simp [valueOf,parameter,same]

theorem word_back (value : Option UInt64) :
    ((value.map fun n => some (Decimal.text n.toNat)).join).bind Decimal.word64? = value := by
  cases value with
  | none => rfl
  | some n => exact Decimal.word64?_text n

theorem text_back (value : Option String) : (value.map some).join = value := by
  cases value <;> rfl

theorem ofGiven_given (query : Query) : ofGiven query.given = query.meant := by
  have recurse : (if query.recurse = true then some (none : Option String) else none).isSome = query.recurse := by
    cases query.recurse <;> rfl
  simp [ofGiven,given,valueOf_append,valueOf_parameter,word_back,text_back,recurse,meant]

theorem setText_idem (value : Option String) : setText (setText value) = setText value := by
  cases value with
  | none => rfl
  | some s => by_cases empty : s = "" <;> simp [setText,empty]

theorem setText_or (first second : Option String) : setText (first.or (setText second)) = setText (first.or second) := by
  cases first with
  | none => exact setText_idem second
  | some s => rfl

theorem setText_ne_empty (value : Option String) : setText value ≠ some "" := by
  cases value with
  | none => exact nofun
  | some s => by_cases empty : s = "" <;> simp [setText,empty]

theorem given_meant (query : Query) : query.meant.given = query.given := by
  simp only [given,meant,setText_idem]
  rfl

theorem text_meant (query : Query) : query.meant.text = query.text := by
  rw [text,text,parts_eq_map,parts_eq_map,given_meant]

theorem given_eq_nil {query : Query} : query.given = [] ↔ query.meant = {} := by
  constructor
  · intro empty
    rw [← ofGiven_given,empty]
    rfl
  · intro nothing
    rw [← given_meant,nothing]
    rfl

theorem seen_injective : Function.Injective seen := by
  intro p q same
  obtain ⟨name,value⟩ := p
  obtain ⟨other,value'⟩ := q
  simp only [seen,Prod.mk.injEq] at same
  obtain ⟨rfl,bytes⟩ := same
  have read : Function.Injective Utf8.bytes := Function.LeftInverse.injective Utf8.decode_bytes
  rw [Option.map_injective read bytes]

theorem text_eq_iff {query other : Query} : query.text = other.text ↔ query.meant = other.meant := by
  constructor
  · intro same
    have read := readBack?_text query
    rw [same,readBack?_text,Option.some.injEq] at read
    have parameters := List.map_injective_iff.mpr seen_injective read
    rw [← ofGiven_given,← ofGiven_given,parameters]
  · intro same
    rw [← text_meant,same,text_meant]

inductive FreeText where
  | cluster | acquire | release

def FreeText.name : FreeText → String
  | .cluster => "dc"
  | .acquire => "acquire"
  | .release => "release"

def put (query : Query) (value : Option String) : FreeText → Query
  | .cluster => { query with cluster := value }
  | .acquire => { query with acquire := value }
  | .release => { query with release := value }

def besides (name : String) (read : List (String × Option (List UInt8))) : List (String × Option (List UInt8)) :=
  read.filter (fun p => p.1 ≠ name)

theorem besides_parameter (name other : String) (value : Option (Option String)) :
    besides name ((parameter other value).map seen) =
      if other = name then [] else (parameter other value).map seen := by
  cases value with
  | none => by_cases same : other = name <;> simp [besides,parameter,same]
  | some v => by_cases same : other = name <;> simp [besides,parameter,seen,same]

theorem besides_append (name : String) (front back : List (String × Option (List UInt8))) :
    besides name (front ++ back) = besides name front ++ besides name back :=
  List.filter_append front back

theorem besides_put (query : Query) (value : Option String) (which : FreeText) :
    besides which.name ((query.put value which).given.map seen) = besides which.name (query.given.map seen) := by
  cases which <;>
    simp [given,put,FreeText.name,besides_append,besides_parameter] <;>
    rfl

-- The string gives back exactly the parameters that are set, in their order. Whatever stands in a
-- text, the other parameters are read as they were, and only queries that mean the same share a string.
theorem text_tells_parameters (query : Query) :
    readBack? query.text = some (query.given.map seen) ∧
    (∀ value which, (readBack? (query.put value which).text).map (besides which.name) =
      (readBack? query.text).map (besides which.name)) ∧
    ∀ other : Query, query.text = other.text ↔ query.meant = other.meant := by
  refine ⟨readBack?_text query,?_,fun _ => text_eq_iff⟩
  intro value which
  -- What is read back is what was given, so one option is put among the others in both.
  rw [readBack?_text,readBack?_text,Option.map_some,Option.map_some,besides_put]

example : readBack? { cluster := some "a&cas=1", recurse := true, cas := some 0, release := some "" : Query }.text =
    some [("dc", some (Utf8.bytes "a&cas=1")), ("recurse", none), ("cas", some (Utf8.bytes "0"))] := by
  decide +kernel

end ClusterClient.Query
