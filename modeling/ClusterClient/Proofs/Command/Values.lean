import ClusterClient.Proofs.Base64
import ClusterClient.Proofs.Command.Table
import ClusterClient.Proofs.Entry.Recoded
import ClusterClient.Proofs.Entry.Strict
import ClusterClient.Proofs.Utf8
namespace ClusterClient

namespace Value

theorem encode_unbroken (value : List UInt8) : '\n' ∉ (encode value).toList := by
  intro member
  have kept := List.filter_eq_self.mp (Base64.encode_not_blank value) '\n' (by rwa [encode,String.toList_ofList] at member)
  cases kept

theorem armor_eq_join (encoded : String) :
    (armor encoded).toList = Text.join ['\n'] [header.toList, encoded.toList, footer.toList] := by
  simp [armor,Text.join]

theorem armored_free (value : List UInt8) :
    ∀ line ∈ [header.toList, (encode value).toList, footer.toList], '\n' ∉ line := by
  simp only [List.forall_mem_cons]
  exact ⟨by decide,encode_unbroken value,by decide,nofun⟩

theorem split_armor (value : List UInt8) :
    Text.split '\n' (armor (encode value)).toList = [header.toList, (encode value).toList, footer.toList] := by
  rw [armor_eq_join]
  exact Text.split_join (List.cons_ne_nil _ _) (armored_free value)

theorem split_armor_ended (value : List UInt8) :
    Text.split '\n' ((armor (encode value)).toList ++ ['\n']) =
      [header.toList, (encode value).toList, footer.toList, []] := by
  have joined : (armor (encode value)).toList ++ ['\n'] =
      Text.join ['\n'] ([header.toList, (encode value).toList, footer.toList] ++ [[]]) := by
    rw [armor_eq_join,Text.join_concat _ (List.cons_ne_nil _ _),List.append_nil]
  rw [joined]
  refine Text.split_join (List.cons_ne_nil _ _) (List.forall_mem_append.mpr ⟨armored_free value,?_⟩)
  exact List.forall_mem_singleton.mpr List.not_mem_nil

theorem decode_text (s : String) : (decode (encode (Utf8.bytes s))).map Utf8.decode = .ok s := by
  rw [decode_encode,Except.map,Utf8.decode_bytes]

end Value

namespace Entry

def Encodes (s : String) (item : Json) : Prop :=
  ∃ members : Json.Members, item = .object members ∧ members.get? "Value" = some (.string (Value.encode (Utf8.bytes s)))

structure ShownAs (s : String) (e : Entry) : Prop where
  value : e.value = Utf8.bytes s
  line : ∀ verbose, (Command.entryLines verbose e)[1]? = some ("Value: " ++ s)
  column : ("value",s) ∈ EntryRow.columns.zip (EntryRow.ofEntry e).fields

theorem shownAs_of_value {s : String} {e : Entry} (value : e.value = Utf8.bytes s) : ShownAs s e := by
  have text : e.valueText = s := by rw [valueText,value,Utf8.decode_bytes]
  refine ⟨value,?_,?_⟩
  · intro verbose
    rw [Command.entryLines,text]
    rfl
  · have pair : ("value",s) = ("value",(EntryRow.ofEntry e).value) := by rw [← text]; rfl
    rw [pair]
    exact List.mem_cons_of_mem _ List.mem_cons_self

theorem ofJson_shownAs {policy : MissingFields} {s : String} {item : Json} {e : Entry} (encoded : Encodes s item)
    (read : ofJson policy item = .ok e) : ShownAs s e := by
  obtain ⟨members,rfl,found⟩ := encoded
  have decoded := (ofJson_readFrom read).value
  rw [textOf,found] at decoded
  dsimp only at decoded
  rw [Value.decode_encode] at decoded
  exact shownAs_of_value (Except.ok.inj decoded).symm

end Entry

theorem Batch.ofBody_shownAs {policy : MissingFields} {recurse : Bool} {text : String} {batch : Batch}
    (read : ofBody policy recurse text = .ok batch) : ∃ items, Json.parse text = .ok (.array items) ∧
      List.Forall₂ (fun item e => ∀ s, Entry.Encodes s item → Entry.ShownAs s e) items batch.entries := by
  obtain ⟨found,accepted,checked⟩ := bind_eq_ok.mp read
  obtain ⟨_,_,same⟩ := bind_eq_ok.mp checked
  cases same
  obtain ⟨items,parsed,each⟩ := ofText_eq_ok.mp accepted
  exact ⟨items,parsed,each.imp fun item e decoded s encoded => Entry.ofJson_shownAs encoded decoded⟩

namespace Command
variable {readers : Readers} {words : List String} {invocation : Invocation} {files : String → Found}
  {settings : Settings} {agent : Agent} {s : String}

structure Begins (readers : Readers) (words : List String) (files : String → Found) (invocation : Invocation)
    (settings : Settings) : Prop where
  accepted : Invocation.ofWords words = .ok invocation
  set : Settings.loaded readers.document files invocation.config = .ok settings

theorem output_single (line : String) (result : α) : (Transcript.mk result [] [] [line]).output.toList =
    line.toList ++ ['\n'] := by
  rw [Transcript.toList_output]
  exact List.append_nil _

theorem play_encode (begins : Begins readers words files invocation settings) (asked : invocation.action = .encode s)
    (script : List (Option Http.Reply)) :
    (run readers words).play files script =
      ⟨.ended ExitCode.ok,[],[],[Value.armor (Value.encode (Utf8.bytes s))]⟩ := by
  rw [run_set begins.accepted begins.set script,carryOut,asked]
  rfl

theorem play_decode (begins : Begins readers words files invocation settings)
    (asked : invocation.action = .decode (Value.encode (Utf8.bytes s))) (script : List (Option Http.Reply)) :
    (run readers words).play files script = ⟨.ended ExitCode.ok,[],[],["Result: \"" ++ s ++ "\""]⟩ := by
  have shown : (carryOut readers.naming invocation settings).run.play files script =
      ⟨.ok ExitCode.ok,[],[],["Result: \"" ++ Utf8.decode (Utf8.bytes s) ++ "\""]⟩ := by
    rw [carryOut,asked]
    dsimp only
    rw [Value.decode_encode]
    rfl
  rw [run_set begins.accepted begins.set script,shown,Utf8.decode_bytes]
  rfl

theorem put_requests (begins : Begins readers words files invocation settings) {key : String}
    {flags cas : Option UInt64} {acquire release : Option String}
    (asked : invocation.action = .put key s flags cas acquire release)
    (reached : invocation.overrides.agent settings = .ok agent) (script : List (Option Http.Reply)) :
    let t := (run readers words).play files script
    t.requests.length = (if agent.namesServer readers.naming then 1 else 0) ∧
      ∀ request ∈ t.requests, request.method = .put ∧ request.body = Utf8.bytes s := by
  intro t
  let client : Client := ⟨agent,settings.missingFields,readers.naming⟩
  let call := client.entryCall .put key { flags, cas, acquire, release } (Utf8.bytes s) (Client.verdict false)
  have remote : invocation.action.isLocal = false := by rw [asked]; rfl
  have other : invocation.action ≠ .ping := by rw [asked]; exact nofun
  have calls : invocation.action.calls client = [call] := by rw [asked]; rfl
  have proper := invocation.action.calls_proper client
  have ran := (run_calls begins.accepted begins.set reached remote other script).1
  rw [calls,attempts_single,sent_single] at ran
  rw [calls] at proper
  have named := attempts_named proper (reached_current reached) (call.attempt script)
    (attempts_single call script ▸ List.mem_cons_self)
  have sent : (call.attempt script).exchange? client = (Http.cut? client.naming call.url).map fun server =>
      (⟨.put,server.1,server.2,Utf8.bytes s,agent.timeoutMs⟩,(call.attempt script).answer) := Option.map_map ..
  rw [sent] at ran named
  rw [Transcript.requests,ran]
  cases server : Http.cut? client.naming call.url with
  | none =>
    rw [server] at named
    rw [← named]
    exact ⟨rfl,nofun⟩
  | some place =>
    rw [server] at named
    rw [← named]
    exact ⟨rfl,List.forall_mem_singleton.mpr ⟨rfl,rfl⟩⟩

theorem get_lines (begins : Begins readers words files invocation settings) {keys : List String} {recurse rows : Bool}
    (asked : invocation.action = .get keys recurse rows) (reached : invocation.overrides.agent settings = .ok agent)
    (script : List (Option Http.Reply)) :
    let client : Client := ⟨agent,settings.missingFields,readers.naming⟩
    let made := attempts (keys.map (keyCall client recurse)) script
    ((run readers words).play files script).lines = (if rows then [tabbed EntryRow.columns] else []) ++
      made.flatMap (keyLines client invocation.verbose recurse rows) := by
  have remote : invocation.action.isLocal = false := by rw [asked]; rfl
  rw [run_reached begins.accepted begins.set reached remote script,asked]
  exact perform_get_lines ⟨agent,settings.missingFields,readers.naming⟩ invocation.verbose recurse rows keys files script

-- Behind two hyphens every text can be given.
theorem ofWords_texts_given (s : String) :
    Invocation.ofWords ["kv","encode","--",s] = .ok ⟨{},false,none,.encode s⟩ ∧
    Invocation.ofWords ["kv","decode","--",s] = .ok ⟨{},false,none,.decode s⟩ ∧
    ∀ key, Invocation.ofWords ["kv","put","--",key,s] = .ok ⟨{},false,none,.put key s none none none none⟩ :=
  ⟨rfl,rfl,fun _ => rfl⟩

-- What a run does with a text, where it is given the text or finds it in a reply. The entries shown
-- of a reply are its objects, one for one.
structure Keeps (readers : Readers) (s : String) (invocation : Invocation) (settings : Settings)
    (script : List (Option Http.Reply)) (t : Transcript Ending) : Prop where
  encoded : invocation.action = .encode s → t.result = .ended ExitCode.ok ∧
    Text.split '\n' t.output.toList =
      [Value.header.toList, (Value.encode (Utf8.bytes s)).toList, Value.footer.toList, []]
  decoded : invocation.action = .decode (Value.encode (Utf8.bytes s)) → t.result = .ended ExitCode.ok ∧
    t.output = "Result: \"" ++ s ++ "\"\n"
  sent : ∀ agent, invocation.overrides.agent settings = .ok agent →
    ∀ key flags cas acquire release, invocation.action = .put key s flags cas acquire release →
      t.requests.length = (if agent.namesServer readers.naming then 1 else 0) ∧
        ∀ request ∈ t.requests, request.method = .put ∧ request.body = Utf8.bytes s
  shown : ∀ agent, invocation.overrides.agent settings = .ok agent →
    ∀ keys recurse rows, invocation.action = .get keys recurse rows →
      let client : Client := ⟨agent,settings.missingFields,readers.naming⟩
      let made := attempts (keys.map (keyCall client recurse)) script
      t.lines = (if rows then [tabbed EntryRow.columns] else []) ++
          made.flatMap (keyLines client invocation.verbose recurse rows) ∧
        ∀ attempt ∈ made, ∀ reply ∈ attempt.answer, reply.isSuccess = true →
          ∀ batch, Batch.ofBody settings.missingFields recurse reply.text = .ok batch →
            keyLines client invocation.verbose recurse rows attempt = entryOutput invocation.verbose rows batch ∧
              ∃ items, Json.parse reply.text = .ok (.array items) ∧
                List.Forall₂ (fun item e => Entry.Encodes s item → Entry.ShownAs s e) items batch.entries

theorem run_keeps (begins : Begins readers words files invocation settings) (s : String) (script : List (Option Http.Reply)) :
    Keeps readers s invocation settings script ((run readers words).play files script) := by
  constructor
  case encoded =>
    intro asked
    rw [play_encode begins asked script,output_single,Value.split_armor_ended]
    exact ⟨rfl,rfl⟩
  case decoded =>
    intro asked
    rw [play_decode begins asked script]
    refine ⟨rfl,String.toList_injective ?_⟩
    rw [output_single]
    simp
  case sent => exact fun _ reached _ _ _ _ _ asked => put_requests begins asked reached script
  case shown =>
    intro agent reached keys recurse rows asked
    refine ⟨get_lines begins asked reached script,?_⟩
    intro attempt _ reply answered success batch read
    refine ⟨keyLines_read ⟨agent,settings.missingFields,readers.naming⟩ answered success read invocation.verbose rows,?_⟩
    obtain ⟨items,parsed,each⟩ := Batch.ofBody_shownAs read
    exact ⟨items,parsed,each.imp fun _ _ shown => shown s⟩

-- No text is changed on its way: not when it is encoded and decoded again, not when it is sent, and
-- not when it comes back in the object of an entry.
theorem texts_survive (s : String) :
    (Value.decode (Value.encode (Utf8.bytes s))).map Utf8.decode = .ok s ∧
    (∀ value, Text.split '\n' (Value.armor (Value.encode value)).toList =
      [Value.header.toList, (Value.encode value).toList, Value.footer.toList]) ∧
    (Invocation.ofWords ["kv","encode","--",s] = .ok ⟨{},false,none,.encode s⟩ ∧
      Invocation.ofWords ["kv","decode","--",s] = .ok ⟨{},false,none,.decode s⟩ ∧
      ∀ key, Invocation.ofWords ["kv","put","--",key,s] = .ok ⟨{},false,none,.put key s none none none none⟩) ∧
    ∀ readers words files invocation settings, Begins readers words files invocation settings → ∀ script,
      Keeps readers s invocation settings script ((run readers words).play files script) :=
  ⟨Value.decode_text s,Value.split_armor,ofWords_texts_given s,fun _ _ _ _ _ begins script => run_keeps begins s script⟩

theorem texts_survive_mixed :
    let s := "é\x00\n😀"
    let reply := Client.carrying "[\x7b\"Value\":\"w6kACvCfmIA=\"\x7d]"
    let played (words : List String) := (run .plain words).play (fun _ => .nothing) [some reply]
    (played ["kv","encode","--",s]).output =
      "-----BEGIN BASE64 ENCODED STREAM-----\nw6kACvCfmIA=\n-----END BASE64 ENCODED STREAM-----\n" ∧
    (played ["kv","decode","--","w6kACvCfmIA="]).output = "Result: \"" ++ s ++ "\"\n" ∧
    (played ["kv","get","a"]).lines[1]? = some ("Value: " ++ s) := by
  intro s reply played
  have encoding : Value.encode (Utf8.bytes s) = "w6kACvCfmIA=" := by decide +kernel
  obtain ⟨_,_,⟨encodes,_⟩,runs⟩ := texts_survive s
  have set : Settings.loaded Readers.plain.document (fun _ => .nothing) none = .ok {} := rfl
  refine ⟨?_,?_,?_⟩
  · have cut := ((runs _ _ _ _ _ ⟨encodes,set⟩ [some reply]).encoded rfl).2
    rw [Text.split_exact (List.cons_ne_nil _ _),encoding] at cut
    exact String.toList_injective (cut.1.trans (by decide +kernel))
  · rw [← encoding]
    exact ((runs _ _ _ _ _ ⟨(ofWords_texts_given _).2.1,set⟩ [some reply]).decoded rfl).2
  · have accepted : Invocation.ofWords ["kv","get","a"] = .ok ⟨{},false,none,.get ["a"] false false⟩ := by decide +kernel
    obtain ⟨lines,each⟩ :=
      (runs _ _ _ _ _ ⟨accepted,set⟩ [some reply]).shown Agent.loopback rfl ["a"] false false rfl
    have made : attempts (["a"].map (keyCall ⟨Agent.loopback,.tolerant,Readers.plain.naming⟩ false)) [some reply] =
        [⟨keyCall ⟨Agent.loopback,.tolerant,Readers.plain.naming⟩ false "a",some reply⟩] := by
      rw [List.map_singleton,attempts_single,Call.attempt,if_pos (by decide +kernel)]
      rfl
    change (played ["kv","get","a"]).lines = _ at lines
    rw [made] at lines each
    obtain ⟨shown,_⟩ := each _ List.mem_cons_self reply rfl (by decide +kernel)
      ⟨[{ value := Utf8.bytes s }]⟩ (by decide +kernel)
    rw [lines,List.flatMap_singleton,shown]
    decide +kernel

end Command
end ClusterClient
