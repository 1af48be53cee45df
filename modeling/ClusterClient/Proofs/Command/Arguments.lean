import ClusterClient.Command.Arguments
import ClusterClient.Proofs.Json.Reading
namespace ClusterClient

theorem Numeral.timeout_range {source : String} {ms : UInt32} (read : timeout source = .ok ms) :
    1 ≤ ms.toNat ∧ ms.toNat ≤ 65535 := by
  unfold timeout at read
  split at read
  · rename_i n _
    split at read
    · rename_i range
      cases read
      rw [UInt32.toNat_ofNat']
      omega
    · cases read
  · cases read

namespace Command
variable {level : Level} {g after : Given} {s : Setting} {value w : String} {words rest : List String}
  {levels : List (Level × Given)}

def Overrides.Ranged (overrides : Overrides) : Prop := ∀ ms ∈ overrides.timeoutMs, 1 ≤ ms.toNat ∧ ms.toNat ≤ 65535

def Given.Ranged (g : Given) : Prop := g.overrides.Ranged

theorem Given.empty_ranged : ({} : Given).Ranged := nofun

namespace Given

theorem number_eq_ok {α : Type} {read : Except Numeral.Fault α} {x : α} :
    number s value read = .ok x ↔ read = .ok x := by
  cases read <;> simp [number]

theorem set_ranged (ranged : g.Ranged) (done : g.set s value = .ok after) : after.Ranged := by
  cases s with
  | timeout =>
    obtain ⟨ms,read,done⟩ := bind_eq_ok.mp done
    cases done
    intro other set
    cases set
    exact Numeral.timeout_range (number_eq_ok.mp read)
  | host | port | cluster | acquire | release =>
    cases done
    exact ranged
  | flags | cas =>
    obtain ⟨n,_,done⟩ := bind_eq_ok.mp done
    cases done
    exact ranged
  | config =>
    simp only [set] at done
    split at done
    · cases done
    · cases done
      exact ranged
  | status =>
    simp only [set] at done
    split at done
    · cases done
      exact ranged
    · cases done

theorem take_ranged (ranged : g.Ranged) (done : g.take s value = .ok after) : after.Ranged := by
  rw [take] at done
  split at done
  · cases done
  · exact set_ranged ranged done

theorem settle_ranged (ranged : g.Ranged) (done : g.settle = .ok after) : after.Ranged := by
  rw [settle] at done
  split at done
  · cases done
    exact ranged
  · cases done
  · exact take_ranged (g := { g with pending := none }) ranged done

theorem flip_ranged {s : Switch} (ranged : g.Ranged) (done : g.flip s = .ok after) : after.Ranged := by
  obtain ⟨settled,first,done⟩ := bind_eq_ok.mp done
  have kept := settle_ranged ranged first
  cases s with
  | debug | recurse | rows =>
    dsimp only at done
    split at done
    · cases done
    · cases done
      exact kept

theorem give_ranged {attached : Option String} (ranged : g.Ranged) (done : g.give s attached = .ok after) :
    after.Ranged := by
  obtain ⟨settled,first,done⟩ := bind_eq_ok.mp done
  have kept := settle_ranged ranged first
  cases attached with
  | none =>
    cases done
    exact kept
  | some value => exact take_ranged kept done

theorem bare_ranged {choice : Choice} (ranged : g.Ranged) (done : g.bare choice = .ok after) : after.Ranged := by
  cases choice with
  | setting s =>
    rw [bare] at done
    exact give_ranged ranged done
  | switch s => exact flip_ranged ranged done
  | help =>
    obtain ⟨_,_,done⟩ := bind_eq_ok.mp done
    cases done
  | version =>
    obtain ⟨_,_,done⟩ := bind_eq_ok.mp done
    cases done

theorem word_ranged {trailing : Bool} (ranged : g.Ranged) (done : g.word level trailing w = .ok after) :
    after.Ranged := by
  unfold word at done
  split at done
  · cases done
    exact ranged
  · split at done
    · obtain ⟨settled,first,done⟩ := bind_eq_ok.mp done
      have kept := settle_ranged ranged first
      cases done
      exact kept
    · cases done

end Given

theorem longWord_ranged {cs : List Char} (ranged : g.Ranged) (done : longWord level g cs = .ok after) :
    after.Ranged := by
  unfold longWord at done
  dsimp only at done
  split at done
  · cases done
  · exact Given.bare_ranged ranged done
  · exact Given.give_ranged ranged done
  · cases done

theorem shortWord_ranged {cs : List Char} (ranged : g.Ranged) (done : shortWord level g cs = .ok after) :
    after.Ranged := by
  induction cs generalizing g with
  | nil =>
    cases done
    exact ranged
  | cons c rest ih =>
    unfold shortWord at done
    split at done
    · cases done
    · exact Given.give_ranged ranged done
    · exact Given.give_ranged ranged done
    · exact Given.give_ranged ranged done
    · obtain ⟨next,first,done⟩ := bind_eq_ok.mp done
      exact ih (Given.bare_ranged ranged first) done

theorem finishLevel_ranged (ranged : g.Ranged) (done : finishLevel level g = .ok after) : after.Ranged := by
  obtain ⟨settled,first,done⟩ := bind_eq_ok.mp done
  split at done
  · cases done
  · cases done
    exact Given.settle_ranged ranged first

-- By the words: each is one step on its level, or goes down to a level where nothing is set yet.
theorem readWords_ranged {trailing : Bool} (ranged : g.Ranged)
    (read : readWords level g trailing words = .ok levels) : ∀ l ∈ levels, l.2.Ranged := by
  fun_induction readWords level g trailing words generalizing levels with
  | case1 level g =>
    obtain ⟨last,finished,done⟩ := bind_eq_ok.mp read
    cases done
    exact List.forall_mem_singleton.mpr (finishLevel_ranged ranged finished)
  | case2 level g w rest ih =>
    obtain ⟨next,first,read⟩ := bind_eq_ok.mp read
    exact ih next (Given.word_ranged ranged first) read
  | case3 => cases read
  -- A level that has just been entered has no timeout yet.
  | case4 level g w rest child _ _ ih =>
    obtain ⟨below,lower,read⟩ := bind_eq_ok.mp read
    obtain ⟨settled,first,done⟩ := bind_eq_ok.mp read
    cases done
    exact List.forall_mem_cons.mpr ⟨Given.settle_ranged ranged first,ih Given.empty_ranged lower⟩
  | case5 level g w rest _ _ ih => exact ih ranged read
  | case6 level g w rest _ cs _ _ ih =>
    obtain ⟨next,first,read⟩ := bind_eq_ok.mp read
    exact ih next (longWord_ranged ranged first) read
  | case7 level g w rest _ c cs _ _ _ ih =>
    obtain ⟨next,first,read⟩ := bind_eq_ok.mp read
    exact ih next (shortWord_ranged ranged first) read
  | case8 level g w rest _ _ _ _ ih =>
    obtain ⟨next,first,read⟩ := bind_eq_ok.mp read
    exact ih next (Given.word_ranged ranged first) read

theorem merge_ranged {upper lower : Given} (above : upper.Ranged) (below : lower.Ranged) :
    (merge upper lower).Ranged := by
  intro ms set
  have either : (lower.overrides.timeoutMs <|> upper.overrides.timeoutMs) = some ms := set
  cases own : lower.overrides.timeoutMs with
  | none =>
    rw [own] at either
    exact above ms either
  | some n =>
    rw [own] at either
    exact below ms (own.trans either)

theorem merged_ranged (ranged : g.Ranged) (all : ∀ l ∈ levels, l.2.Ranged) :
    (levels.foldl (fun g l => merge g l.2) g).Ranged := by
  induction levels generalizing g with
  | nil => exact ranged
  | cons l rest ih =>
    obtain ⟨here,later⟩ := List.forall_mem_cons.mp all
    exact ih (merge_ranged ranged here) later

theorem ofWords_ranged {invocation : Invocation} (accepted : Invocation.ofWords words = .ok invocation) :
    invocation.overrides.Ranged := by
  obtain ⟨levels,read,done⟩ := bind_eq_ok.mp accepted
  have merged := merged_ranged Given.empty_ranged (readWords_ranged Given.empty_ranged read)
  unfold invocationOf at done
  dsimp only at done
  split at done
  · cases done
  · split at done
    · cases done
    · cases done
      exact merged

def Setting.spelled (s : Setting) (value : String) : String := "--" ++ s.name ++ "=" ++ value

theorem cutAtEquals_append {name : List Char} (free : '=' ∉ name) (value : List Char) :
    cutAtEquals (name ++ '=' :: value) = (name,some value) := by
  induction name with
  | nil => rfl
  | cons c rest ih =>
    obtain ⟨other,later⟩ := List.ne_and_not_mem_of_not_mem_cons free
    rw [List.cons_append,cutAtEquals,if_neg (Ne.symm other),ih later]

theorem Setting.name_free (s : Setting) : '=' ∉ s.name.toList := by
  cases s <;> decide

theorem spelled_toList (s : Setting) (value : String) :
    (s.spelled value).toList = '-' :: '-' :: (s.name.toList ++ '=' :: value.toList) := by
  simp [Setting.spelled]

theorem child?_spelled (level : Level) (s : Setting) (value : String) : level.child? (s.spelled value) = none := by
  have hyphenless : ∀ child ∈ level.children, child.1.toList.head? ≠ some '-' := by
    cases level <;> decide
  rw [Level.child?,Option.map_eq_none_iff,List.find?_eq_none]
  intro child listed same
  apply hyphenless child listed
  rw [eq_of_beq same,spelled_toList]
  rfl

def Given.allow (g : Given) (s : Setting) : Option String → Except Stop Given
  | none => .ok g
  | some value => g.set s value

theorem give_unset (settled : g.pending = none) (unset : g.isSet s = false) :
    g.give s (some value) = g.set s value := by
  rw [Given.give,Given.settle,settled]
  dsimp only
  rw [ok_bind,Given.take,unset]
  rfl

theorem readWords_allow (found : level.choices.find? (fun c => c.long == s.name) = some (.setting s))
    (settled : g.pending = none) (unset : g.isSet s = false) (value : Option String) :
    readWords level g false ((value.map s.spelled).toList ++ rest) =
      g.allow s value >>= fun g => readWords level g false rest := by
  cases value with
  | none => rfl
  | some value =>
    have long : longWord level g (s.name.toList ++ '=' :: value.toList) = g.set s value := by
      rw [longWord,cutAtEquals_append s.name_free]
      dsimp only
      rw [String.ofList_toList,found]
      dsimp only
      rw [String.ofList_toList]
      exact give_unset settled unset
    have step : readWords level g false (s.spelled value :: rest) =
        longWord level g (s.name.toList ++ '=' :: value.toList) >>= fun g => readWords level g false rest := by
      rw [readWords,child?_spelled,ite_self,spelled_toList]
      obtain ⟨c,cs,whole⟩ := List.exists_cons_of_ne_nil (List.append_ne_nil_of_right_ne_nil s.name.toList
        (List.cons_ne_nil '=' value.toList))
      rw [whole]
      rfl
    simp only [Option.map_some,Option.toList_some,List.singleton_append]
    rw [step,long]
    rfl

structure Texts where
  host : Option String := none
  port : Option String := none
  cluster : Option String := none
  timeout : Option String := none

def Texts.written (texts : Texts) : List String :=
  (texts.host.map (Setting.spelled .host)).toList ++ ((texts.port.map (Setting.spelled .port)).toList ++
    ((texts.cluster.map (Setting.spelled .cluster)).toList ++
      ((texts.timeout.map (Setting.spelled .timeout)).toList ++ ["ping"])))

structure Texts.Spell (texts : Texts) (overrides : Overrides) : Prop where
  host : overrides.host = texts.host
  port : overrides.port = texts.port
  cluster : overrides.cluster = texts.cluster
  timeout : texts.timeout.map Numeral.timeout = overrides.timeoutMs.map .ok

theorem ofWords_written (texts : Texts) :
    Invocation.ofWords texts.written =
      ({ overrides := { host := texts.host, port := texts.port, cluster := texts.cluster } } : Given).allow .timeout
        texts.timeout >>= fun g => readWords .root g false ["ping"] >>= invocationOf := by
  have hosted : ({} : Given).allow .host texts.host = .ok { overrides := { host := texts.host } } := by
    cases texts.host <;> rfl
  have ported : ({ overrides := { host := texts.host } } : Given).allow .port texts.port =
      .ok { overrides := { host := texts.host, port := texts.port } } := by
    cases texts.port <;> rfl
  have clustered : ({ overrides := { host := texts.host, port := texts.port } } : Given).allow .cluster texts.cluster =
      .ok { overrides := { host := texts.host, port := texts.port, cluster := texts.cluster } } := by
    cases texts.cluster <;> rfl
  rw [Invocation.ofWords,Texts.written,readWords_allow rfl rfl rfl,hosted,ok_bind,readWords_allow rfl rfl rfl,ported,
    ok_bind,readWords_allow rfl rfl rfl,clustered,ok_bind,readWords_allow rfl rfl rfl]
  cases Given.allow _ .timeout texts.timeout <;> rfl

theorem invocationOf_ping (overrides : Overrides) :
    (readWords .root { overrides } false ["ping"] >>= invocationOf) =
      .ok { overrides, verbose := false, config := none, action := .ping } := by
  obtain ⟨host,port,cluster,timeoutMs⟩ := overrides
  cases host <;> cases port <;> cases cluster <;> cases timeoutMs <;> rfl

theorem ofWords_texts {texts : Texts} {overrides : Overrides} :
    Invocation.ofWords texts.written = .ok { overrides, verbose := false, config := none, action := .ping } ↔
      texts.Spell overrides := by
  rw [ofWords_written]
  -- Three of the texts are put down as they come, so the cases are those of the timeout.
  constructor
  · intro accepted
    obtain ⟨g,allowed,accepted⟩ := bind_eq_ok.mp accepted
    cases given : texts.timeout with
    | none =>
      rw [given] at allowed
      cases allowed
      rw [invocationOf_ping] at accepted
      cases accepted
      exact ⟨rfl,rfl,rfl,by rw [given]; rfl⟩
    | some text =>
      rw [given] at allowed
      obtain ⟨ms,read,done⟩ := bind_eq_ok.mp allowed
      cases done
      rw [invocationOf_ping] at accepted
      cases accepted
      exact ⟨rfl,rfl,rfl,by rw [given,Option.map_some,Given.number_eq_ok.mp read]; rfl⟩
  · intro ⟨host,port,cluster,timeout⟩
    obtain ⟨_,_,_,timeoutMs⟩ := overrides
    cases host
    cases port
    cases cluster
    cases given : texts.timeout with
    | none =>
      rw [given] at timeout
      cases Option.map_eq_none_iff.mp timeout.symm
      exact invocationOf_ping _
    | some text =>
      rw [given] at timeout
      obtain ⟨ms,rfl,read⟩ := Option.map_eq_some_iff.mp timeout.symm
      rw [Given.allow,Given.set,← read]
      exact invocationOf_ping _

end Command
end ClusterClient
