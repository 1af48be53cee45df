import ClusterClient.Client
import ClusterClient.Proofs.Agent
import Mathlib.Data.List.Basic
namespace ClusterClient

namespace Http

def inAuthority (c : Char) : Bool := !(c == '/' || c == '?' || c == '#')

theorem clean_append (front back : String) : clean (front ++ back) = clean front ++ clean back := by
  simp only [clean,String.toList_append,List.filter_append,List.map_append]

theorem takeWhile_stop {p : Char → Bool} {stop : Char} (stops : p stop = false) (front back : List Char) :
    (front ++ stop :: back).takeWhile p = front.takeWhile p := by
  induction front with
  | nil => rw [List.nil_append,List.takeWhile_cons_of_neg (by simp [stops]),List.takeWhile_nil]
  | cons c rest ih =>
    rw [List.cons_append,List.takeWhile_cons,List.takeWhile_cons,ih]

theorem cut?_isSome (naming : Naming) (url : String) : (cut? naming url).isSome =
    (scheme.isPrefixOf (clean url) &&
      (readServer naming (server (((clean url).drop scheme.length).takeWhile inAuthority))).isSome) := by
  unfold cut?
  dsimp only
  split
  · rename_i begins
    rw [begins,Option.isSome_map]
    rfl
  · rename_i other
    rw [Bool.eq_false_iff.mpr other]
    rfl

end Http

namespace Agent
open Http

def namesServer (naming : Naming) (agent : Agent) : Bool :=
  (readServer naming (server ((clean agent.text).takeWhile inAuthority))).isSome

theorem cut?_base (naming : Naming) (agent : Agent) (path more : String) :
    (cut? naming (agent.base path ++ more)).isSome = agent.namesServer naming := by
  have front : clean "http://" = scheme := by decide
  have slash : clean "/v1/" = '/' :: clean "v1/" := by decide
  have whole : clean (agent.base path ++ more) =
      scheme ++ (clean agent.text ++ '/' :: (clean "v1/" ++ (clean path ++ clean more))) := by
    simp only [base,clean_append,front,slash,List.append_assoc,List.cons_append]
  have begins : scheme.isPrefixOf (clean (agent.base path ++ more)) = true := by
    rw [whole,List.isPrefixOf_iff_prefix]
    exact List.prefix_append _ _
  have authority : ((clean (agent.base path ++ more)).drop scheme.length).takeWhile inAuthority =
      (clean agent.text).takeWhile inAuthority := by
    rw [whole,List.drop_left]
    exact takeWhile_stop rfl _ _
  rw [cut?_isSome,begins,authority,Bool.true_and,namesServer]

end Agent

namespace Client
variable {client : Client}

theorem cut?_url (current : client.agent.Current) (endpoint : Endpoint) :
    (Http.cut? client.naming (client.url endpoint)).isSome = client.agent.namesServer client.naming := by
  have plain : ∀ path,
      (Http.cut? client.naming (client.agent.base path)).isSome = client.agent.namesServer client.naming := by
    intro path
    rw [← String.append_empty (s := client.agent.base path)]
    exact client.agent.cut?_base client.naming path ""
  rw [url,Agent.url_fresh current]
  cases endpoint with
  | keyValue key => exact client.agent.cut?_base client.naming "kv/" (Agent.encodeKey key)
  | leader => exact plain _
  | peers => exact plain _
  | self => exact plain _

theorem cut?_entryUrl (current : client.agent.Current) (key : String) (query : Query) :
    (Http.cut? client.naming (client.entryUrl key query)).isSome = client.agent.namesServer client.naming := by
  rw [entryUrl,url,Agent.url_fresh current,Agent.freshUrl,Query.apply]
  split
  · exact client.agent.cut?_base client.naming "kv/" (Agent.encodeKey key)
  · simp only [String.append_assoc]
    exact client.agent.cut?_base client.naming "kv/" _

end Client
end ClusterClient
