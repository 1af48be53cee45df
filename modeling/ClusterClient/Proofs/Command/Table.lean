import ClusterClient.Proofs.Command.Get
import ClusterClient.Proofs.Split
namespace ClusterClient

def Transcript.output (t : Transcript α) : String := String.join (t.lines.map (· ++ "\n"))

def readTable (text : String) : List (List String) :=
  (Text.split '\n' text.toList).dropLast.map fun line => (Text.split '\t' line).map String.ofList

namespace EntryRow

structure Free (c : Char) (row : EntryRow) : Prop where
  key : c ∉ row.key.toList
  value : c ∉ row.value.toList
  session : c ∉ row.session.toList

theorem digits_free {c : Char} (other : ∀ d : Fin 10, Decimal.digitChar d ≠ c) (n : UInt64) :
    c ∉ (Entry.word n).toList := by
  intro member
  rw [Entry.word,Decimal.text,String.toList_ofList] at member
  obtain ⟨d,_,same⟩ := List.mem_map.mp member
  exact other d same

theorem fields_free {c : Char} (other : ∀ d : Fin 10, Decimal.digitChar d ≠ c) (e : Entry) :
    (∀ field ∈ (ofEntry e).fields, c ∉ field.toList) ↔ (ofEntry e).Free c := by
  have digits := digits_free other
  constructor
  · intro free
    refine ⟨free _ ?_,free _ ?_,free _ ?_⟩ <;> simp [fields]
  · rintro ⟨key,value,session⟩
    simp only [fields,List.forall_mem_cons]
    refine ⟨key,value,digits _,digits _,digits _,digits _,session,nofun⟩

end EntryRow

namespace Text

theorem ended_eq_join (lines : List (List Char)) : lines.flatMap (· ++ ['\n']) = join ['\n'] (lines ++ [[]]) := by
  induction lines with
  | nil => rfl
  | cons line rest ih =>
    rw [List.flatMap_cons,ih,List.cons_append,join_cons _ _ (List.append_ne_nil_of_right_ne_nil _ (List.cons_ne_nil _ _))]

theorem split_ended {lines : List (List Char)} :
    split '\n' (lines.flatMap (· ++ ['\n'])) = lines ++ [[]] ↔ ∀ line ∈ lines, '\n' ∉ line := by
  rw [ended_eq_join,split_join_iff (List.append_ne_nil_of_right_ne_nil _ (List.cons_ne_nil _ _)),List.forall_mem_append]
  simp

end Text

theorem Transcript.toList_output (t : Transcript α) :
    t.output.toList = (t.lines.map String.toList).flatMap (· ++ ['\n']) := by
  rw [output,String.toList_join,List.flatMap_map,List.flatMap_map]
  simp only [String.toList_append]
  rfl

namespace Command

theorem toList_tabbed (fields : List String) : (tabbed fields).toList = Text.join ['\t'] (fields.map String.toList) := by
  rw [tabbed,String.toList_intercalate]
  generalize fields.map String.toList = pieces
  induction pieces with
  | nil => rfl
  | cons piece rest ih =>
    cases rest with
    | nil => exact List.append_nil piece
    | cons next more =>
      rw [Text.join,← ih]
      exact (List.append_assoc ..).symm

theorem tabbed_free {c : Char} (other : c ≠ '\t') (fields : List String) :
    c ∉ (tabbed fields).toList ↔ ∀ field ∈ fields, c ∉ field.toList := by
  rw [toList_tabbed]
  constructor
  · intro free field member inside
    exact free (Text.mem_join_of_mem ['\t'] (List.mem_map_of_mem member) inside)
  · intro free member
    rcases Text.mem_join member with joint | ⟨piece,found,inside⟩
    · exact other (List.mem_singleton.mp joint)
    · obtain ⟨field,here,rfl⟩ := List.mem_map.mp found
      exact free field here inside

theorem split_tabbed {fields : List String} (listed : fields ≠ []) :
    Text.split '\t' (tabbed fields).toList = fields.map String.toList ↔ ∀ field ∈ fields, '\t' ∉ field.toList := by
  rw [toList_tabbed,Text.split_join_iff (List.map_eq_nil_iff.not.mpr listed)]
  exact List.forall_mem_map

theorem split_output (t : Transcript α) :
    Text.split '\n' t.output.toList = t.lines.map String.toList ++ [[]] ↔ ∀ line ∈ t.lines, '\n' ∉ line.toList := by
  rw [t.toList_output,Text.split_ended]
  exact List.forall_mem_map

theorem readTable_iff {t : Transcript α} {table : List (List String)} (lines : t.lines = table.map tabbed)
    (filled : ∀ record ∈ table, record ≠ []) :
    readTable t.output = table ↔ ∀ record ∈ table, ∀ field ∈ record, '\t' ∉ field.toList ∧ '\n' ∉ field.toList := by
  constructor
  -- A field that is found again was cut out at the separators, so it holds none.
  · intro same record member field listed
    rw [← same] at member
    obtain ⟨line,cut,rfl⟩ := List.mem_map.mp member
    obtain ⟨piece,inside,rfl⟩ := List.mem_map.mp listed
    have whole := Text.not_mem_of_mem_split ((List.dropLast_sublist _).subset cut)
    rw [String.toList_ofList]
    exact ⟨Text.not_mem_of_mem_split inside,fun ends => whole (Text.mem_of_mem_split inside ends)⟩
  · intro free
    have whole : ∀ line ∈ t.lines, '\n' ∉ line.toList := by
      rw [lines]
      refine List.forall_mem_map.mpr fun record member => ?_
      exact (tabbed_free (by decide) record).mpr fun field listed => (free record member field listed).2
    rw [readTable,(split_output t).mpr whole,List.dropLast_concat,lines,List.map_map,List.map_map]
    refine (List.map_congr_left fun record member => ?_).trans (List.map_id table)
    have columns := (split_tabbed (filled record member)).mpr fun field listed => (free record member field listed).1
    have texts : (record.map String.toList).map String.ofList = record := by
      rw [List.map_map]
      exact (List.map_congr_left fun field _ => String.ofList_toList).trans (List.map_id record)
    exact (congrArg (List.map String.ofList) columns).trans texts

theorem rows_found {t : Transcript α} {entries : List Entry}
    (lines : t.lines = tabbed EntryRow.columns :: (entries.map EntryRow.ofEntry).map fun row => tabbed row.fields) :
    let rows := entries.map EntryRow.ofEntry
    (Text.split '\n' t.output.toList = t.lines.map String.toList ++ [[]] ↔ ∀ row ∈ rows, row.Free '\n') ∧
      (∀ row ∈ rows,
        Text.split '\t' (tabbed row.fields).toList = row.fields.map String.toList ↔ row.Free '\t') ∧
      (readTable t.output = EntryRow.columns :: rows.map EntryRow.fields ↔
        ∀ row ∈ rows, row.Free '\t' ∧ row.Free '\n') := by
  intro rows
  have free : ∀ c, (∀ d : Fin 10, Decimal.digitChar d ≠ c) →
      ∀ row ∈ rows, ((∀ field ∈ row.fields, c ∉ field.toList) ↔ row.Free c) := by
    intro c other
    exact List.forall_mem_map.mpr fun e _ => EntryRow.fields_free other e
  have ends := free '\n' (by decide)
  have tabs := free '\t' (by decide)
  have filled : ∀ row : EntryRow, row.fields ≠ [] := fun row => List.cons_ne_nil _ _
  refine ⟨?_,?_,?_⟩
  · have plain : '\n' ∉ (tabbed EntryRow.columns).toList := by decide
    rw [split_output,lines,List.forall_mem_cons,and_iff_right plain,List.forall_mem_map]
    exact forall₂_congr fun row member => (tabbed_free (by decide) row.fields).trans (ends row member)
  · exact fun row member => (split_tabbed (filled row)).trans (tabs row member)
  · have table : t.lines = (EntryRow.columns :: rows.map EntryRow.fields).map tabbed := by
      rw [lines,List.map_cons,List.map_map (l := rows)]
      rfl
    have records : ∀ record ∈ EntryRow.columns :: rows.map EntryRow.fields, record ≠ [] :=
      List.forall_mem_cons.mpr ⟨List.cons_ne_nil _ _,List.forall_mem_map.mpr fun row _ => filled row⟩
    have plain : ∀ field ∈ EntryRow.columns, '\t' ∉ field.toList ∧ '\n' ∉ field.toList := by decide
    rw [readTable_iff table records,List.forall_mem_cons,and_iff_right plain,List.forall_mem_map]
    refine forall₂_congr fun row member => ?_
    rw [forall₂_and,tabs row member,ends row member]

variable {client : Client}

theorem keyCall_decoded (current : client.agent.Current) (named : client.agent.namesServer client.naming = true) {recurse : Bool}
    {reply : Http.Reply} {batch : Batch} (success : reply.isSuccess = true)
    (read : Batch.ofBody client.policy recurse reply.text = .ok batch) (verbose rows : Bool) (key : String)
    (more : List (Option Http.Reply)) :
    let attempt := (keyCall client recurse key).attempt (some reply :: more)
    attempt.fate = .passed ∧ keyLines client verbose recurse rows attempt = entryOutput verbose rows batch := by
  intro attempt
  have sent : attempt = ⟨keyCall client recurse key,some reply⟩ := by
    change Attempt.mk (keyCall client recurse key) (if (Http.cut? client.naming (client.entryUrl key { recurse })).isSome then _ else _) = _
    rw [if_pos ((Client.cut?_entryUrl current key _).trans named)]
    rfl
  have silence : silent (Batch.ofBody client.policy recurse) reply.text = .ok () := by
    rw [silent,read]
    rfl
  have reads : (keyCall client recurse key).reads reply.text = .ok () := silence
  rw [sent]
  constructor
  · unfold Attempt.fate
    simp only [if_pos success,reads]
  · exact keyLines_read client rfl success read verbose rows

theorem reads_decoded (current : client.agent.Current) (named : client.agent.namesServer client.naming = true) {recurse : Bool}
    {replies : List Http.Reply} {batches : List Batch}
    (decoded : List.Forall₂ (fun reply batch => reply.isSuccess = true ∧
      Batch.ofBody client.policy recurse reply.text = .ok batch) replies batches)
    {keys : List String} (each : keys.length = replies.length) (verbose rows : Bool) (more : List (Option Http.Reply)) :
    let made := attempts (keys.map (keyCall client recurse)) (replies.map some ++ more)
    (∀ attempt ∈ made, attempt.fate = .passed) ∧
      made.flatMap (keyLines client verbose recurse rows) = batches.flatMap (entryOutput verbose rows) := by
  -- By the replies. Each call passes, so the next one finds the reply after it.
  induction decoded generalizing keys with
  | nil =>
    cases List.length_eq_zero_iff.mp each
    exact ⟨nofun,rfl⟩
  | @cons reply batch replies batches here later ih =>
    obtain _ | ⟨key,keys⟩ := keys
    · cases each
    obtain ⟨passed,shown⟩ :=
      keyCall_decoded current named here.1 here.2 verbose rows key (replies.map some ++ more)
    obtain ⟨restPassed,restShown⟩ := ih (Nat.succ.inj each)
    dsimp only
    rw [List.map_cons,List.map_cons,List.cons_append,attempts,if_pos passed,List.tail_cons,List.flatMap_cons,
      List.flatMap_cons,shown,restShown]
    exact ⟨List.forall_mem_cons.mpr ⟨passed,restPassed⟩,rfl⟩

section
variable {readers : Readers} {words : List String} {invocation : Invocation} {files : String → Found}
  {settings : Settings} {agent : Agent}

-- The rows of all keys are written in their order below the columns. Each is a line of its own, and
-- its columns are found again, exactly if no key, value or session breaks the line or the column.
theorem rows_read_back (accepted : Invocation.ofWords words = .ok invocation)
    (set : Settings.loaded readers.document files invocation.config = .ok settings)
    (reached : invocation.overrides.agent settings = .ok agent) {keys : List String} {recurse : Bool}
    (asked : invocation.action = .get keys recurse true) (named : agent.namesServer readers.naming = true)
    {replies : List Http.Reply} {batches : List Batch} (each : keys.length = replies.length)
    (decoded : List.Forall₂ (fun reply batch => reply.isSuccess = true ∧
      Batch.ofBody settings.missingFields recurse reply.text = .ok batch) replies batches)
    (more : List (Option Http.Reply)) :
    let t := (run readers words).play files (replies.map some ++ more)
    let rows := (batches.flatMap Batch.entries).map EntryRow.ofEntry
    t.result.code = 0 ∧
      t.lines = tabbed EntryRow.columns :: rows.map (fun row => tabbed row.fields) ∧
      (Text.split '\n' t.output.toList = t.lines.map String.toList ++ [[]] ↔ ∀ row ∈ rows, row.Free '\n') ∧
      (∀ row ∈ rows,
        Text.split '\t' (tabbed row.fields).toList = row.fields.map String.toList ↔ row.Free '\t') ∧
      (readTable t.output = EntryRow.columns :: rows.map EntryRow.fields ↔
        ∀ row ∈ rows, row.Free '\t' ∧ row.Free '\n') := by
  intro t rows
  have remote : invocation.action.isLocal = false := by rw [asked]; rfl
  have other : invocation.action ≠ .ping := by rw [asked]; exact nofun
  let client : Client := ⟨agent,settings.missingFields,readers.naming⟩
  have calls : invocation.action.calls client = keys.map (keyCall client recurse) := by rw [asked]; rfl
  obtain ⟨passed,shown⟩ :=
    reads_decoded (show client.agent.Current from reached_current reached) named decoded each invocation.verbose true more
  have written : rows.map (fun row => tabbed row.fields) = batches.flatMap (entryOutput invocation.verbose true) :=
    (congrArg _ List.map_flatMap).trans List.map_flatMap
  have lines : t.lines = tabbed EntryRow.columns :: rows.map (fun row => tabbed row.fields) := by
    rw [show t = _ from run_reached accepted set reached remote (replies.map some ++ more),asked]
    dsimp only
    rw [perform_get_lines client invocation.verbose recurse true keys,shown,written]
    rfl
  refine ⟨?_,lines,rows_found lines⟩
  have ran := (run_calls accepted set reached remote other (replies.map some ++ more)).2
  rw [calls] at ran
  exact ran.trans (exitCode_zero.mpr passed)

end

theorem rows_read_back_two :
    let words := ["kv","get","--rows","a","b"]
    let script := [some (Client.carrying "[\x7b\"Key\":\"a\",\"Value\":\"MQ==\"\x7d]"),
      some (Client.carrying "[\x7b\"Key\":\"b\",\"Flags\":7\x7d]")]
    let t := (run .plain words).play (fun _ => .nothing) script
    t.result.code = 0 ∧
      readTable t.output =
        [EntryRow.columns, ["a","1","0","0","0","0",""], ["b","","7","0","0","0",""]] := by
  intro words script t
  have accepted : Invocation.ofWords words = .ok ⟨{},false,none,.get ["a","b"] false true⟩ := by decide +kernel
  have set : Settings.loaded Readers.plain.document (fun _ => .nothing) none = .ok {} := rfl
  have reached : ({} : Overrides).agent {} = .ok Agent.loopback := rfl
  have first : (Client.carrying "[\x7b\"Key\":\"a\",\"Value\":\"MQ==\"\x7d]").isSuccess = true ∧
      Batch.ofBody .tolerant false
        (Client.carrying "[\x7b\"Key\":\"a\",\"Value\":\"MQ==\"\x7d]").text =
      .ok ⟨[{ key := "a", value := [49] }]⟩ := by decide +kernel
  have second : (Client.carrying "[\x7b\"Key\":\"b\",\"Flags\":7\x7d]").isSuccess = true ∧
      Batch.ofBody .tolerant false (Client.carrying "[\x7b\"Key\":\"b\",\"Flags\":7\x7d]").text =
      .ok ⟨[{ key := "b", flags := 7 }]⟩ := by decide +kernel
  obtain ⟨code,_,_,_,table⟩ := rows_read_back accepted set reached rfl (by decide +kernel) rfl
    (List.Forall₂.cons first (List.Forall₂.cons second List.Forall₂.nil)) []
  refine ⟨code,(table.mpr (List.forall_mem_map.mpr ?_)).trans (by decide +kernel)⟩
  intro e member
  rcases List.mem_pair.mp member with rfl | rfl
  · exact ⟨⟨by decide,by decide +kernel,by decide⟩,⟨by decide,by decide +kernel,by decide⟩⟩
  · exact ⟨⟨by decide,by decide,by decide⟩,⟨by decide,by decide,by decide⟩⟩

-- A value of two lines makes two of its row, and a value with a tab one column more.
theorem rows_unread :
    let body (value : String) := "[\x7b\"Key\":\"a\",\"Value\":\"" ++ value ++ "\"\x7d]"
    let output (value : String) :=
      ((run .plain ["kv","get","--rows","a"]).play (fun _ => .nothing) [some (Client.carrying (body value))]).output
    ((Batch.ofBody .tolerant false (body "YQpi")).map Batch.rows = .ok [⟨"a","a\nb","0","0","0","0",""⟩] ∧
        readTable (output "YQpi") = [EntryRow.columns, ["a","a"], ["b","0","0","0","0",""]]) ∧
      (Batch.ofBody .tolerant false (body "YQli")).map Batch.rows = .ok [⟨"a","a\tb","0","0","0","0",""⟩] ∧
        readTable (output "YQli") = [EntryRow.columns, ["a","a","b","0","0","0","0",""]] := by
  decide +kernel

end Command

end ClusterClient
