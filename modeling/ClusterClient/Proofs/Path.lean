import ClusterClient.Proofs.RequestUrl
import ClusterClient.Proofs.Server
namespace ClusterClient

namespace Http

def IsDots (segment : List Char) : Prop := segment = ['.'] ∨ segment = ['.', '.']

instance : DecidablePred IsDots := fun _ => inferInstanceAs (Decidable (_ ∨ _))

def dropSegment (output : List Char) : List Char := ((output.reverse.dropWhile (· != '/')).drop 1).reverse

-- The standard removal, from what begins the input: dots at the very start go, a segment of one dot
-- goes with its slash, one of two dots takes the last segment of the output along, and any other
-- segment moves to the output. A segment of dots at the end leaves its slash.
def removeDotsFrom (output : List Char) : List Char → List Char
  | [] => output
  | '.' :: '.' :: '/' :: rest => removeDotsFrom output rest
  | '.' :: '/' :: rest => removeDotsFrom output rest
  | '/' :: '.' :: '/' :: rest => removeDotsFrom output ('/' :: rest)
  | ['/', '.'] => removeDotsFrom output ['/']
  | '/' :: '.' :: '.' :: '/' :: rest => removeDotsFrom (dropSegment output) ('/' :: rest)
  | ['/', '.', '.'] => removeDotsFrom (dropSegment output) ['/']
  | ['.'] => output
  | ['.', '.'] => output
  | c :: rest => removeDotsFrom (output ++ c :: rest.takeWhile (· != '/')) (rest.dropWhile (· != '/'))
termination_by input => input.length
decreasing_by
  all_goals simp only [List.length_cons,List.length_nil]
  all_goals first | omega | exact Nat.lt_succ_of_le (List.dropWhile_suffix _).length_le

def removeDots (path : List Char) : List Char := removeDotsFrom [] path

def pathOf (url : String) : List Char :=
  ((url.toList.drop scheme.length).dropWhile inAuthority).takeWhile fun c => !(c == '?' || c == '#')

def laid (segments : List (List Char)) : List Char := segments.flatMap ('/' :: ·)

theorem laid_cons (segment : List Char) (rest : List (List Char)) :
    laid (segment :: rest) = '/' :: (segment ++ laid rest) := List.flatMap_cons

theorem laid_concat (front : List (List Char)) (segment : List Char) :
    laid (front ++ [segment]) = laid front ++ '/' :: segment := by
  rw [laid,List.flatMap_append,List.flatMap_singleton]
  rfl

theorem laid_eq_join {segments : List (List Char)} (listed : segments ≠ []) :
    laid segments = '/' :: Text.join ['/'] segments := by
  induction segments with
  | nil => exact absurd rfl listed
  | cons segment rest ih =>
    cases rest with
    | nil => simp [laid,Text.join]
    | cons next more =>
      rw [laid_cons,ih (List.cons_ne_nil _ _),Text.join,List.append_assoc]
      rfl

theorem laid_split (path : List Char) : laid (Text.split '/' path) = '/' :: path := by
  rw [laid_eq_join (Text.split_ne_nil '/' path),Text.join_split]

theorem cut_laid (segments : List (List Char)) : Text.Cut '/' (laid segments) := by
  intro c first
  cases segments with
  | nil => cases first
  | cons segment rest => exact (Option.some.inj first).symm

theorem dropSegment_laid {segment : List Char} (free : '/' ∉ segment) (front : List (List Char)) :
    dropSegment (laid (front ++ [segment])) = laid front := by
  have free' : '/' ∉ segment.reverse := by simpa using free
  have cut : Text.Cut '/' ('/' :: (laid front).reverse) := by simp [Text.Cut]
  have back := (Text.cut_here free' cut).2
  rw [dropSegment,laid_concat,List.reverse_append,List.reverse_cons,List.append_assoc,List.singleton_append,back]
  simp

theorem dropSegment_settled {settled : List (List Char)} (free : ∀ segment ∈ settled, '/' ∉ segment) :
    dropSegment (laid settled.reverse) = laid settled.tail.reverse := by
  cases settled with
  | nil => rfl
  | cons segment front =>
    rw [List.reverse_cons,dropSegment_laid (free segment List.mem_cons_self)]
    rfl

section
variable (output : List Char)

theorem removeDotsFrom_nil : removeDotsFrom output [] = output := by rw [removeDotsFrom]

theorem removeDotsFrom_dot (rest : List Char) :
    removeDotsFrom output ('/' :: '.' :: '/' :: rest) = removeDotsFrom output ('/' :: rest) := by
  rw [removeDotsFrom]

theorem removeDotsFrom_two (rest : List Char) :
    removeDotsFrom output ('/' :: '.' :: '.' :: '/' :: rest) = removeDotsFrom (dropSegment output) ('/' :: rest) := by
  rw [removeDotsFrom]

theorem removeDotsFrom_plain {segment rest : List Char} (free : '/' ∉ segment) (plain : ¬IsDots segment)
    (cut : Text.Cut '/' rest) :
    removeDotsFrom output ('/' :: (segment ++ rest)) = removeDotsFrom (output ++ '/' :: segment) rest := by
  obtain ⟨front,back⟩ := Text.cut_here free cut
  have other : ∀ dots tail : List Char, IsDots dots → Text.Cut '/' tail → segment ++ rest ≠ dots ++ tail := by
    intro dots tail isDots cutTail same
    have freeDots : '/' ∉ dots := by
      rcases isDots with rfl | rfl <;> decide
    rw [Text.cut_unique free freeDots cut cutTail] at same
    exact plain (same.1 ▸ isDots)
  have slash : ∀ tail : List Char, Text.Cut '/' ('/' :: tail) := by simp [Text.Cut]
  have ends : Text.Cut '/' [] := by simp [Text.Cut]
  have opens : '/' ≠ '.' := by decide
  rw [removeDotsFrom.eq_10,front,back]
  · exact fun _ dot _ => opens dot
  · exact fun _ dot _ => opens dot
  · exact fun tail _ same => other ['.'] _ (.inl rfl) (slash tail) same
  · exact fun _ same => other ['.'] _ (.inl rfl) ends same
  · exact fun tail _ same => other ['.', '.'] _ (.inr rfl) (slash tail) same
  · exact fun _ same => other ['.', '.'] _ (.inr rfl) ends same
  · exact fun dot _ => opens dot
  · exact fun dot _ => opens dot

theorem removeDotsFrom_slash : removeDotsFrom output ['/'] = output ++ ['/'] := by
  have alone : removeDotsFrom output ('/' :: ([] ++ [])) = removeDotsFrom (output ++ ['/']) [] :=
    removeDotsFrom_plain output List.not_mem_nil (by decide) (by simp [Text.Cut])
  rwa [List.append_nil,removeDotsFrom_nil] at alone

theorem removeDotsFrom_lastDot : removeDotsFrom output ['/', '.'] = output ++ ['/'] := by
  rw [← removeDotsFrom_slash,removeDotsFrom]

theorem removeDotsFrom_lastTwo : removeDotsFrom output ['/', '.', '.'] = dropSegment output ++ ['/'] := by
  rw [← removeDotsFrom_slash,removeDotsFrom]

end

-- Removal goes through the segments and keeps those that are settled.
theorem removeDotsFrom_laid {settled segments : List (List Char)} (listed : segments ≠ [])
    (free : ∀ segment ∈ segments, '/' ∉ segment) (freeSettled : ∀ segment ∈ settled, '/' ∉ segment) :
    removeDotsFrom (laid settled.reverse) (laid segments) = laid (resolve settled segments) := by
  -- The induction is that of resolve. What is settled is a text here, from which the last segment is
  -- taken at its slash, so no segment may hold one.
  induction settled, segments using resolve.induct with
  | case1 settled => exact absurd rfl listed
  | case2 settled =>
    rw [resolve,if_pos rfl,List.reverse_cons,laid_concat]
    exact removeDotsFrom_lastDot _
  | case3 settled =>
    rw [resolve,if_neg (by decide),if_pos rfl,List.reverse_cons,laid_concat,← dropSegment_settled freeSettled]
    exact removeDotsFrom_lastTwo _
  | case4 settled last notDot notTwo =>
    have plain := removeDotsFrom_plain (laid settled.reverse) (free last List.mem_cons_self)
      (not_or.mpr ⟨notDot,notTwo⟩) (cut_laid [])
    rw [resolve,if_neg notDot,if_neg notTwo,List.reverse_cons,laid_concat,laid_cons,plain]
    exact removeDotsFrom_nil _
  | case5 settled next rest ih =>
    rw [resolve,if_pos rfl,← ih (List.cons_ne_nil _ _) (List.forall_mem_cons.mp free).2 freeSettled]
    exact removeDotsFrom_dot _ _
  | case6 settled next rest _ ih =>
    have freeFront : ∀ segment ∈ settled.tail, '/' ∉ segment :=
      fun segment member => freeSettled segment (List.mem_of_mem_tail member)
    rw [resolve,if_neg (by decide),if_pos rfl,
      ← ih (List.cons_ne_nil _ _) (List.forall_mem_cons.mp free).2 freeFront,← dropSegment_settled freeSettled]
    exact removeDotsFrom_two _ _
  | case7 settled segment next rest notDot notTwo ih =>
    obtain ⟨here,later⟩ := List.forall_mem_cons.mp free
    have step := ih (List.cons_ne_nil _ _) later (List.forall_mem_cons.mpr ⟨here,freeSettled⟩)
    rw [List.reverse_cons,laid_concat] at step
    rw [resolve,if_neg notDot,if_neg notTwo,← step,laid_cons]
    exact removeDotsFrom_plain _ here (not_or.mpr ⟨notDot,notTwo⟩) (cut_laid _)

theorem resolve_ne_nil {settled segments : List (List Char)} (listed : segments ≠ []) :
    resolve settled segments ≠ [] := by
  induction settled, segments using resolve.induct with
  | case1 settled => exact absurd rfl listed
  | case2 settled => simp [resolve]
  | case3 settled => simp [resolve]
  | case4 settled last notDot notTwo => simp [resolve,notDot,notTwo]
  | case5 settled next rest ih => simpa [resolve] using ih (List.cons_ne_nil _ _)
  | case6 settled next rest _ ih => simpa [resolve] using ih (List.cons_ne_nil _ _)
  | case7 settled segment next rest notDot notTwo ih =>
    simpa [resolve,notDot,notTwo] using ih (List.cons_ne_nil _ _)

theorem removeDots_laid (path : List Char) : removeDots ('/' :: path) = laid (resolve [] (Text.split '/' path)) := by
  have removed : removeDotsFrom (laid [].reverse) (laid (Text.split '/' path)) = laid (resolve [] (Text.split '/' path)) :=
    removeDotsFrom_laid (Text.split_ne_nil '/' path) (fun _ => Text.not_mem_of_mem_split) nofun
  rwa [laid_split] at removed

theorem removeDots_eq_resolvePath (path : List Char) : removeDots ('/' :: path) = resolvePath ('/' :: path) := by
  rw [removeDots_laid,resolvePath,laid_eq_join (resolve_ne_nil (Text.split_ne_nil '/' path))]

theorem resolve_plain {settled segments : List (List Char)} (plain : ∀ segment ∈ segments, ¬IsDots segment) :
    resolve settled segments = settled.reverse ++ segments := by
  induction settled, segments using resolve.induct with
  | case1 settled => simp [resolve]
  | case2 settled => exact absurd (.inl rfl) (plain _ List.mem_cons_self)
  | case3 settled => exact absurd (.inr rfl) (plain _ List.mem_cons_self)
  | case4 settled last notDot notTwo => simp [resolve,notDot,notTwo]
  | case5 settled next rest ih => exact absurd (.inl rfl) (plain _ List.mem_cons_self)
  | case6 settled next rest _ ih => exact absurd (.inr rfl) (plain _ List.mem_cons_self)
  | case7 settled segment next rest notDot notTwo ih =>
    rw [resolve,if_neg notDot,if_neg notTwo,ih (List.forall_mem_cons.mp plain).2]
    simp

-- What is left was settled before, is a segment not of dots, or is the empty one behind a last slash.
theorem mem_resolve {settled segments : List (List Char)} {segment : List Char}
    (member : segment ∈ resolve settled segments) :
    segment ∈ settled ∨ (segment ∈ segments ∧ ¬IsDots segment) ∨ segment = [] := by
  have last : ∀ {front : List (List Char)}, segment ∈ ([] :: front).reverse → segment ∈ front ∨ segment = [] :=
    fun there => (List.mem_cons.mp (List.mem_reverse.mp there)).symm
  have later : ∀ {first : List Char} {rest : List (List Char)},
      segment ∈ rest ∧ ¬IsDots segment → segment ∈ first :: rest ∧ ¬IsDots segment :=
    fun there => there.imp (List.mem_cons_of_mem _) id
  induction settled, segments using resolve.induct with
  | case1 settled =>
    rw [resolve] at member
    exact .inl (List.mem_reverse.mp member)
  | case2 settled =>
    rw [resolve,if_pos rfl] at member
    exact (last member).imp id .inr
  | case3 settled =>
    rw [resolve,if_neg (by decide),if_pos rfl] at member
    exact (last member).imp List.mem_of_mem_tail .inr
  | case4 settled end' notDot notTwo =>
    rw [resolve,if_neg notDot,if_neg notTwo] at member
    rcases List.mem_cons.mp (List.mem_reverse.mp member) with rfl | there
    · exact .inr (.inl ⟨List.mem_cons_self,not_or.mpr ⟨notDot,notTwo⟩⟩)
    · exact .inl there
  | case5 settled next rest ih =>
    rw [resolve,if_pos rfl] at member
    exact (ih member).imp id (.imp later id)
  | case6 settled next rest _ ih =>
    rw [resolve,if_neg (by decide),if_pos rfl] at member
    exact (ih member).imp List.mem_of_mem_tail (.imp later id)
  | case7 settled first next rest notDot notTwo ih =>
    rw [resolve,if_neg notDot,if_neg notTwo] at member
    rcases ih member with there | inside
    · rcases List.mem_cons.mp there with rfl | front
      · exact .inr (.inl ⟨List.mem_cons_self,not_or.mpr ⟨notDot,notTwo⟩⟩)
      · exact .inl front
    · exact .inr (inside.imp later id)

theorem resolve_undotted {segments : List (List Char)} : ∀ segment ∈ resolve [] segments, ¬IsDots segment := by
  intro segment member
  rcases mem_resolve member with impossible | ⟨_,plain⟩ | rfl
  · cases impossible
  · exact plain
  · decide

theorem laid_injective {segments others : List (List Char)} (listed : segments ≠ []) (listedOther : others ≠ [])
    (free : ∀ segment ∈ segments, '/' ∉ segment) (freeOther : ∀ segment ∈ others, '/' ∉ segment)
    (same : laid segments = laid others) : segments = others := by
  rw [laid_eq_join listed,laid_eq_join listedOther] at same
  rw [← Text.split_join listed free,← Text.split_join listedOther freeOther,(List.cons.inj same).2]

theorem removeDots_kept {path : List Char} :
    removeDots ('/' :: path) = '/' :: path ↔ ∀ segment ∈ Text.split '/' path, ¬IsDots segment := by
  have listed := Text.split_ne_nil '/' path
  have free : ∀ segment ∈ Text.split '/' path, '/' ∉ segment := fun _ => Text.not_mem_of_mem_split
  rw [removeDots_laid,← laid_split path]
  constructor
  · intro kept
    have freeKept : ∀ segment ∈ resolve [] (Text.split '/' path), '/' ∉ segment := by
      intro segment member
      rcases mem_resolve member with impossible | ⟨there,_⟩ | rfl
      · cases impossible
      · exact free segment there
      · exact List.not_mem_nil
    rw [← laid_injective (resolve_ne_nil listed) listed freeKept free kept]
    exact resolve_undotted
  · intro plain
    rw [resolve_plain plain,List.reverse_nil,List.nil_append]

theorem inAuthority_iff {c : Char} : inAuthority c = true ↔ c ≠ '/' ∧ c ≠ '?' ∧ c ≠ '#' := by
  simp [inAuthority,and_assoc]

def Sent (c : Char) : Prop := c ≠ '\t' ∧ c ≠ '\n' ∧ c ≠ '\r' ∧ c ≠ '\\'

instance : DecidablePred Sent := fun _ => inferInstanceAs (Decidable (_ ∧ _))

theorem clean_sent {text : String} (sent : ∀ c ∈ text.toList, Sent c) : clean text = text.toList := by
  have kept : text.toList.filter (fun c => !(c == '\t' || c == '\n' || c == '\r')) = text.toList := by
    refine List.filter_eq_self.mpr ?_
    intro c member
    obtain ⟨tab,lineFeed,carriageReturn,_⟩ := sent c member
    simp [tab,lineFeed,carriageReturn]
  have same : text.toList.map (fun c => if c = '\\' then '/' else c) = text.toList.map id :=
    List.map_congr_left fun c member => if_neg (sent c member).2.2.2
  rw [clean,kept,same,List.map_id]

theorem mem_clean {text : String} {c : Char} (member : c ∈ clean text) :
    ∃ d ∈ text.toList, c = if d = '\\' then '/' else d := by
  obtain ⟨d,kept,rfl⟩ := List.mem_map.mp member
  exact ⟨d,(List.mem_filter.mp kept).1,rfl⟩

theorem inPath_slash {path : List Char} (plain : ∀ c ∈ path, c ≠ '?' ∧ c ≠ '#') :
    ∀ c ∈ '/' :: path, (!(c == '?' || c == '#')) = true := by
  refine List.forall_mem_cons.mpr ⟨rfl,?_⟩
  intro c member
  simp [plain c member]

theorem pathOf_append {front back : List Char} (authority : ∀ c ∈ front, inAuthority c = true)
    (behind : ∀ c ∈ back, c ≠ '?' ∧ c ≠ '#') {url : String} (whole : url.toList = scheme ++ (front ++ '/' :: back)) :
    pathOf url = '/' :: back := by
  have slash : inAuthority '/' = false := rfl
  rw [pathOf,whole,List.drop_left,List.dropWhile_append_of_pos authority,List.dropWhile_cons_of_neg (by simp [slash]),
    List.takeWhile_eq_self_iff.mpr (inPath_slash behind)]

theorem cut?_asks {naming : Naming} {url : String} {authority path query : List Char}
    (whole : clean url = scheme ++ (authority ++ ('/' :: path ++ query)))
    (inside : ∀ c ∈ authority, inAuthority c = true) (plain : ∀ c ∈ path, c ≠ '?' ∧ c ≠ '#')
    (mark : Text.Cut '?' query) (free : '#' ∉ query) {server target : String}
    (cut : cut? naming url = some (server,target)) :
    target.toList = removeDots ('/' :: path) ++ query := by
  have behind : ((scheme ++ (authority ++ ('/' :: path ++ query))).drop scheme.length).dropWhile inAuthority =
      '/' :: path ++ query := by
    rw [List.drop_left,List.dropWhile_append_of_pos inside]
    exact List.dropWhile_cons_of_neg (by decide)
  have inPath := inPath_slash plain
  have ends : query.takeWhile (fun c => !(c == '?' || c == '#')) = [] ∧
      query.dropWhile (fun c => !(c == '?' || c == '#')) = query := by
    cases query with
    | nil => exact ⟨rfl,rfl⟩
    | cons c more =>
      cases mark c rfl
      exact ⟨rfl,rfl⟩
  have kept : query.takeWhile (fun c => c != '#') = query := by
    refine List.takeWhile_eq_self_iff.mpr ?_
    intro c member
    refine bne_iff_ne.mpr ?_
    rintro rfl
    exact free member
  unfold cut? at cut
  rw [whole] at cut
  dsimp only at cut
  split at cut
  · obtain ⟨_,_,found⟩ := Option.map_eq_some_iff.mp cut
    cases found
    change String.toList (String.ofList (resolvePath (List.takeWhile _ (List.dropWhile inAuthority _)) ++
      List.takeWhile _ (List.dropWhile _ (List.dropWhile inAuthority _)))) = _
    rw [behind,List.takeWhile_append_of_pos inPath,List.dropWhile_append_of_pos inPath,ends.1,ends.2,kept,
      List.append_nil,String.toList_ofList,removeDots_eq_resolvePath]
  · cases cut

end Http

namespace Agent
open Http

def Uncut (host : String) : Prop := '/' ∉ host.toList ∧ '?' ∉ host.toList ∧ '#' ∉ host.toList

def keyPath (agent : Agent) (key : String) : List Char := pathOf (agent.url (.keyValue key)).1

def Dotted (key : String) : Prop := ∃ level ∈ Text.split '/' key.toList, IsDots level

instance : DecidablePred Dotted := fun _ => inferInstanceAs (Decidable (∃ _ ∈ _, _))

instance : DecidablePred Uncut := fun _ => inferInstanceAs (Decidable (_ ∧ _))

section
variable {agent : Agent} {key : String} {c : Char}

theorem text_mem (member : c ∈ agent.text.toList) : c ∈ agent.host.toList ∨ c = ':' ∨ ('0' ≤ c ∧ c ≤ '9') := by
  have digits : ∀ d : Fin 10, '0' ≤ Decimal.digitChar d ∧ Decimal.digitChar d ≤ '9' := by decide
  simp only [text,portText,Decimal.text,String.toList_append,List.mem_append] at member
  rcases member with (host | colon) | port
  · exact .inl host
  · exact .inr (.inl (List.mem_singleton.mp colon))
  · rw [String.toList_ofList] at port
    obtain ⟨d,_,rfl⟩ := List.mem_map.mp port
    exact .inr (.inr (digits d))

theorem text_inAuthority (uncut : Uncut agent.host) : ∀ c ∈ agent.text.toList, inAuthority c = true := by
  intro c member
  obtain ⟨slash,mark,sign⟩ := uncut
  rw [inAuthority_iff]
  rcases text_mem member with host | rfl | digit
  · refine ⟨?_,?_,?_⟩ <;> rintro rfl <;> contradiction
  · decide
  · refine ⟨?_,?_,?_⟩ <;> rintro rfl <;> revert digit <;> decide

theorem coded_sent (member : c ∈ (encodeKey key).toList) : Sent c ∧ c ≠ '?' ∧ c ≠ '#' := by
  have coded := (encodeKey_coded key).mem member
  refine ⟨⟨?_,?_,?_,?_⟩,?_,?_⟩ <;> rintro rfl <;> revert coded <;> decide

theorem url_keyValue_toList (current : agent.Current) (key : String) :
    (agent.url (.keyValue key)).1.toList =
      scheme ++ (agent.text.toList ++ '/' :: ("v1/kv/".toList ++ (encodeKey key).toList)) := by
  rw [url_fresh current,freshUrl,base]
  simp only [String.toList_append,List.append_assoc]
  rfl

theorem keyPath_inPath (key : String) : ∀ c ∈ "v1/kv/".toList ++ (encodeKey key).toList, c ≠ '?' ∧ c ≠ '#' := by
  have fixed : "v1/kv/".toList.all (fun c => decide (c ≠ '?' ∧ c ≠ '#')) = true := by decide
  refine List.forall_mem_append.mpr ⟨?_,fun c coded => (coded_sent coded).2⟩
  exact fun c listed => of_decide_eq_true (List.all_eq_true.mp fixed c listed)

theorem keyPath_eq (current : agent.Current) (uncut : Uncut agent.host) (key : String) :
    agent.keyPath key = '/' :: ("v1/kv/".toList ++ (encodeKey key).toList) :=
  pathOf_append (text_inAuthority uncut) (keyPath_inPath key) (url_keyValue_toList current key)

theorem isDots_encode (level : List Char) : IsDots (Percent.encode keepsInKey level) ↔ IsDots level := by
  have same : ∀ dots : List Char, Percent.encode keepsInKey dots = dots →
      (Percent.encode keepsInKey level = dots ↔ level = dots) := by
    intro dots kept
    have injective : Function.Injective (Percent.encode keepsInKey) := Percent.encode_injective (by decide)
    rw [← injective.eq_iff (a := level),kept]
  exact or_congr (same ['.'] rfl) (same ['.', '.'] rfl)

theorem split_keyPath (key : String) : Text.split '/' ("v1/kv/".toList ++ (encodeKey key).toList) =
    "v1".toList :: "kv".toList :: (Text.split '/' key.toList).map (Percent.encode keepsInKey) := by
  have pieces : "v1/kv/".toList ++ (encodeKey key).toList =
      "v1".toList ++ '/' :: ("kv".toList ++ '/' :: (encodeKey key).toList) := rfl
  rw [pieces,Text.split_append (by decide),Text.split_append (by decide),split_encodeKey]

theorem keyPath_kept (current : agent.Current) (uncut : Uncut agent.host) (key : String) :
    removeDots (agent.keyPath key) = agent.keyPath key ↔ ¬Dotted key := by
  have plain : ¬IsDots "v1".toList ∧ ¬IsDots "kv".toList := by decide
  rw [keyPath_eq current uncut,removeDots_kept,split_keyPath,List.forall_mem_cons,List.forall_mem_cons,List.forall_mem_map]
  simp only [plain,not_false_eq_true,true_and,isDots_encode,Dotted,not_exists,not_and]

end

end Agent

namespace Client
open Http
variable {client : Client} {key : String} {query : Query}

theorem tail_sent {c : Char} (member : c ∈ (client.tail query).toList) : Sent c ∧ c ≠ '#' := by
  rw [tail] at member
  split at member
  · cases member
  · rw [String.toList_append] at member
    rcases List.mem_append.mp member with mark | text
    · rw [List.mem_singleton.mp mark]
      decide
    · have plain := Query.text_mem text
      refine ⟨⟨?_,?_,?_,?_⟩,?_⟩ <;> rintro rfl <;> revert plain <;> decide

theorem clean_entryUrl (current : client.agent.Current) : clean (client.entryUrl key query) =
    scheme ++ (clean client.agent.text ++
      '/' :: ("v1/kv/".toList ++ ((Agent.encodeKey key).toList ++ (client.tail query).toList))) := by
  have front : clean "http://" = scheme := by decide
  have slash : clean "/v1/" = '/' :: "v1/".toList := by decide
  have kv : clean "kv/" = "kv/".toList := by decide
  have coded : clean (Agent.encodeKey key) = (Agent.encodeKey key).toList :=
    clean_sent fun c member => (Agent.coded_sent member).1
  have parameters : clean (client.tail query) = (client.tail query).toList :=
    clean_sent fun c member => (tail_sent member).1
  have url : client.entryUrl key query =
      client.agent.base "kv/" ++ (Agent.encodeKey key ++ client.tail query) := by
    rw [entryUrl_eq,Agent.keyValueFront,Agent.url_fresh current]
    exact congrArg (· ++ _) String.append_empty
  simp only [url,Agent.base,clean_append,front,slash,kv,coded,parameters,List.append_assoc,List.cons_append]
  rfl

theorem clean_authority (uncut : Agent.Uncut client.agent.host) (straight : '\\' ∉ client.agent.host.toList) :
    ∀ c ∈ clean client.agent.text, inAuthority c = true := by
  intro c member
  obtain ⟨d,there,rfl⟩ := mem_clean member
  have other : d ≠ '\\' := by
    rintro rfl
    rcases Agent.text_mem there with host | colon | digit
    · exact straight host
    · cases colon
    · revert digit
      decide
  rw [if_neg other]
  exact Agent.text_inAuthority uncut d there

theorem cut?_target (current : client.agent.Current) (uncut : Agent.Uncut client.agent.host)
    (straight : '\\' ∉ client.agent.host.toList) {authority target : String}
    (cut : cut? client.naming (client.entryUrl key query) = some (authority,target)) :
    target.toList = removeDots (client.agent.keyPath key) ++ (client.tail query).toList := by
  have path := Agent.keyPath_eq current uncut key
  rw [path]
  refine cut?_asks ?_ (clean_authority uncut straight) (Agent.keyPath_inPath key) (client.tail_cut query) ?_ cut
  · rw [clean_entryUrl current,List.cons_append,List.append_assoc]
  · exact fun member => (tail_sent member).2 rfl

-- The path of a key is kept exactly if the key has no segment of dots. What is asked for then stands
-- under the front of all keys and belongs to this key alone.
theorem undotted_keys_stay (client : Client) (current : client.agent.Current)
    (uncut : Agent.Uncut client.agent.host) :
    let path := client.agent.keyPath
    (∀ key, path key = "/v1/kv/".toList ++ (Agent.encodeKey key).toList) ∧
    (∀ key, removeDots (path key) = path key ↔ ¬Agent.Dotted key) ∧
    (∀ key, ¬Agent.Dotted key → "/v1/kv/".toList <+: removeDots (path key)) ∧
    (∀ key other, ¬Agent.Dotted key → ¬Agent.Dotted other →
      (removeDots (path key) = removeDots (path other) ↔ key = other)) ∧
    (∀ key query authority target, '\\' ∉ client.agent.host.toList →
      cut? client.naming (client.entryUrl key query) = some (authority,target) →
      target.toList = removeDots (path key) ++ (client.tail query).toList) := by
  intro path
  have written : ∀ key, path key = "/v1/kv/".toList ++ (Agent.encodeKey key).toList :=
    Agent.keyPath_eq current uncut
  have kept : ∀ key, removeDots (path key) = path key ↔ ¬Agent.Dotted key := Agent.keyPath_kept current uncut
  refine ⟨written,kept,?_,?_,fun _ _ _ _ straight => cut?_target current uncut straight⟩
  · intro key plain
    rw [(kept key).mpr plain,written]
    exact List.prefix_append _ _
  · intro key other plain plainOther
    rw [(kept key).mpr plain,(kept other).mpr plainOther,written,written]
    constructor
    · intro same
      exact Agent.encodeKey_injective (String.toList_injective (List.append_cancel_left same))
    · rintro rfl
      rfl

theorem undotted_keys_stay_hidden :
    let client : Client := { agent := Agent.loopback.setCluster "dc1" }
    removeDots (client.agent.keyPath "a/.b/.../") = "/v1/kv/a/.b/.../".toList ∧
      cut? client.naming (client.entryUrl "a/.b/.../" {}) = some ("127.0.0.1:8500","/v1/kv/a/.b/.../?dc=dc1") ∧
      "/v1/kv/a/.b/.../?dc=dc1".toList =
        removeDots (client.agent.keyPath "a/.b/.../") ++ (client.tail {}).toList := by
  intro client
  have current : client.agent.Current := Agent.current_of_empty rfl
  have asks : cut? client.naming (client.entryUrl "a/.b/.../" {}) = some ("127.0.0.1:8500","/v1/kv/a/.b/.../?dc=dc1") := by
    decide +kernel
  obtain ⟨written,kept,_,_,asked⟩ := undotted_keys_stay client current (by decide)
  refine ⟨?_,asks,asked _ _ _ _ (by decide) asks⟩
  rw [(kept "a/.b/.../").mpr (by decide),written]
  decide +kernel

-- A key that climbs out of the keys: its request goes to another endpoint, and a dotted key gets in
-- the way of a plain one.
theorem dotted_keys_stray :
    let client : Client := { agent := Agent.loopback }
    client.agent.keyPath "../status/leader" = "/v1/kv/../status/leader".toList ∧
      removeDots (client.agent.keyPath "../status/leader") = "/v1/status/leader".toList ∧
      cut? client.naming (client.entryUrl "../status/leader" {}) = some ("127.0.0.1:8500","/v1/status/leader") ∧
      removeDots (client.agent.keyPath "a/../b") = removeDots (client.agent.keyPath "b") := by
  decide +kernel

end Client
end ClusterClient
