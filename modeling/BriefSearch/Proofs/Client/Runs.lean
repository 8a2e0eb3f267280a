import BriefSearch.Proofs.Query.Parameters
import BriefSearch.Proofs.Query.Queries

/-!
# Runs of a client

A client performs one operation after the other over a transport that may remember all calls and
answer as it likes.  The client itself remembers nothing: what an operation sends follows from the
operation and the settings, and its outcome from the answer to its own call.

* **`Operation`**, **`Client.plan`** — what a client can be asked to do;
* **`Session`**, **`Plan.perform`**, **`Client.performAll`** — operations over a transport with a
  state, which keeps the calls it receives;
* **`Operation.requests`** — what an operation sends, read off the settings;
* **`Plan.calls_perform`**, **`Client.calls_performAll`** — the calls of one step and of a run;
* **`Client.sent_plan`** — the calls of an operation are its requests;
* **`Client.run_sends_requests`** — the log of a run, and the outcomes of its operations.
-/

namespace BriefSearch

/-! ### Operations -/

/-- What a client can be asked to do. -/
inductive Operation where
  | compile (statements : List Statement)
  | search (statements : List Statement) (offset count : UInt64)
  | documents (ids : List String)
  | document (id : String)

/-- What an operation gives when it succeeds. -/
inductive Operation.Value where
  | parameters (p : Parameters)
  | response (text : String)
  | records (found : OrderedMap String Record)
  | record (found : Option Record)

/-- What a client does for an operation. -/
def Client.plan (client : Client) : Operation → Plan Operation.Value
  | .compile ss => .done ((client.compile ss).map .parameters)
  | .search ss offset count => (client.search ss offset count).map .response
  | .documents ids => (client.documents ids).map .records
  | .document id => (client.document id).map .record

/-! ### Sessions -/

/-- A transport that may remember: it answers a call in its state and goes to another one. -/
abbrev StatefulTransport (σ : Type) :=
  σ → Call → Except TransferFault String × σ

/-- Where a run stands: the state of the transport, and all calls it has received so far. -/
structure Session (σ : Type) where
  state : σ
  calls : List Call

/-- The transport as it answers in a state. -/
def StatefulTransport.inState {σ : Type} (answer : StatefulTransport σ) (state : σ) : Transport :=
  fun call => (answer state call).1

/-- Carries an operation out. -/
def Plan.perform {α σ : Type} (answer : StatefulTransport σ) (session : Session σ) :
    Plan α → Except SearchError α × Session σ
  | done outcome => (outcome, session)
  | ask call read =>
    match answer session.state call with
    | (.error fault, state) => (.error (.transfer fault), ⟨state, session.calls ++ [call]⟩)
    | (.ok text, state) => (read text, ⟨state, session.calls ++ [call]⟩)

/-- Carries operations out in order. -/
def Client.performAll {σ : Type} (client : Client) (answer : StatefulTransport σ) :
    Session σ → List Operation → List (Except SearchError Operation.Value) × Session σ
  | session, [] => ([], session)
  | session, op :: ops =>
    let first := (client.plan op).perform answer session
    let rest := client.performAll answer first.2 ops
    (first.1 :: rest.1, rest.2)

/-! ### Requests -/

/-- The pairs, the offset and the count of a call. -/
def Call.request (call : Call) : List (String × String) × UInt64 × UInt64 :=
  (call.parameters.toPairs, call.offset, call.count)

/-- The pairs that stand behind the queries of every search: institution, address and, unless they
are missing or blank, the scopes. -/
def originPairs (institution ipAddress : String) (scopes : Option String) :
    List (String × String) :=
  ("institution", institution) :: ("ip", ipAddress) ::
    match scopes with
    | some scopes =>
      if Text.isBlankText scopes then [] else [("loc", "local,scope:(" ++ scopes ++ ")")]
    | none => []

/-- What an operation sends.  Compiling sends nothing, a search sends its queries if it has them,
and looking up records sends one query for all the ids, if there are any. -/
def Operation.requests (vocabulary : Vocabulary) (origin : List (String × String)) :
    Operation → List (List (String × String) × UInt64 × UInt64)
  | compile _ => []
  | search ss offset count =>
    match vocabulary.compile ss with
    | .error _ => []
    | .ok queries => [(queries.toPairs ++ origin, offset, count)]
  | documents ids =>
    if ids = [] then []
    else
      [(("query", "rid,contains," ++ " OR ".intercalate (ids.map escapeValue)) :: origin, 1,
        .ofNat ids.length)]
  | document id => [(("query", "rid,contains," ++ escapeValue id) :: origin, 1, 1)]

/-! ### One step -/

namespace Plan

variable {α β σ : Type}

theorem calls_map (f : α → β) (plan : Plan α) : (plan.map f).calls = plan.calls := by
  cases plan with
  | done outcome => rfl
  | ask call read => rfl

/-- The outcome of an operation depends on the answers to its own calls only. -/
theorem run_congr {transport transport' : Transport} (plan : Plan α)
    (h : ∀ call ∈ plan.calls, transport call = transport' call) :
    plan.run transport = plan.run transport' := by
  cases plan with
  | done outcome => rfl
  | ask call read =>
    have hcall : transport call = transport' call := h call List.mem_cons_self
    rw [run, run, hcall]

/-- **A step adds the calls of its operation to the log**, also when they fail. -/
theorem calls_perform (answer : StatefulTransport σ) (session : Session σ) (plan : Plan α) :
    (plan.perform answer session).2.calls = session.calls ++ plan.calls := by
  cases plan with
  | done outcome => exact (List.append_nil _).symm
  | ask call read =>
    rw [perform]
    rcases answer session.state call with ⟨_ | _, state⟩
    · rfl
    · rfl

/-- **The outcome of a step is that of its operation alone**, over the transport as it answers
then. -/
theorem outcome_perform (answer : StatefulTransport σ) (session : Session σ) (plan : Plan α) :
    (plan.perform answer session).1 = plan.run (answer.inState session.state) := by
  cases plan with
  | done outcome => rfl
  | ask call read =>
    rw [perform, run, StatefulTransport.inState]
    rcases answer session.state call with ⟨_ | _, state⟩
    · rfl
    · rfl

end Plan

/-! ### What an operation sends -/

namespace Client

variable (vocabulary : Vocabulary) (institution ipAddress : String) (scopes : Option String)

theorem toPairs_defaults :
    (Client.new vocabulary institution ipAddress scopes).defaults.toPairs
      = originPairs institution ipAddress scopes := by
  rw [Parameters.toPairs, entries_defaults]
  unfold originPairs
  cases scopes with
  | none => rfl
  | some scopes =>
    dsimp only
    by_cases hblank : Text.isBlankText scopes = true
    · rw [if_pos hblank, if_pos hblank]
      rfl
    · rw [if_neg hblank, if_neg hblank]
      rfl

/-- Behind queries stand what every search carries. -/
theorem toPairs_merge_defaults (queries : List String) :
    ((Parameters.ofQueries queries).merge
      (Client.new vocabulary institution ipAddress scopes).defaults).toPairs
      = (Parameters.ofQueries queries).toPairs ++ originPairs institution ipAddress scopes := by
  have hkeys := keys_defaults vocabulary institution ipAddress scopes
  have hnodup : ["institution", "ip", "loc"].Nodup := by decide
  have hquery := queryParameter_notMem_defaults vocabulary institution ipAddress scopes
  rw [Parameters.toPairs_merge_of_disjoint _ (hkeys.nodup hnodup), toPairs_defaults]
  intro k hk hmem
  have hk' : k = queryParameter := by
    unfold Parameters.ofQueries OrderedMap.keys at hmem
    split at hmem
    · exact absurd hmem List.not_mem_nil
    · exact List.mem_singleton.1 hmem
  exact hquery (hk' ▸ hk)

theorem sent_documents {ids : List String} (hids : ids ≠ []) :
    ((Client.new vocabulary institution ipAddress scopes).documents ids).calls.map Call.request
      = [(("query", "rid,contains," ++ " OR ".intercalate (ids.map escapeValue)) ::
          originPairs institution ipAddress scopes, 1, .ofNat ids.length)] := by
  have hsome : ¬ ids.isEmpty = true := by simpa using hids
  have hpairs := toPairs_merge_defaults vocabulary institution ipAddress scopes [recordQuery ids]
  rw [documents, if_neg hsome, Plan.calls, List.map_singleton]
  exact congrArg (fun pairs => [(pairs, (1 : UInt64), UInt64.ofNat ids.length)]) hpairs

/-- **An operation sends what the settings say.** -/
theorem sent_plan (op : Operation) :
    ((Client.new vocabulary institution ipAddress scopes).plan op).calls.map Call.request
      = op.requests vocabulary (originPairs institution ipAddress scopes) := by
  cases op with
  | compile ss => rfl
  | search ss offset count =>
    rw [plan, Plan.calls_map, Client.search, Client.compile, Operation.requests]
    have hvocabulary : (Client.new vocabulary institution ipAddress scopes).vocabulary
        = vocabulary := rfl
    rw [hvocabulary]
    cases hp : vocabulary.compile ss with
    | error fault => rfl
    | ok p =>
      obtain ⟨-, queries, -, -, rfl⟩ := vocabulary.compile_eq_ok_iff.1 hp
      have hpairs := toPairs_merge_defaults vocabulary institution ipAddress scopes queries
      exact congrArg (fun pairs => [(pairs, offset, count)]) hpairs
  | documents ids =>
    rw [plan, Plan.calls_map, Operation.requests]
    by_cases hids : ids = []
    · subst hids
      rfl
    · rw [if_neg hids]
      exact sent_documents vocabulary institution ipAddress scopes hids
  | document id =>
    rw [plan, Plan.calls_map, document, Plan.calls_map,
      sent_documents vocabulary institution ipAddress scopes (List.cons_ne_nil id []),
      List.map_singleton, String.intercalate_singleton]
    rfl

end Client

/-! ### Runs -/

namespace Client

variable {σ : Type} (client : Client) (answer : StatefulTransport σ)

/-- **The log of a run is that of its operations**, one after the other. -/
theorem calls_performAll (session : Session σ) (ops : List Operation) :
    (client.performAll answer session ops).2.calls
      = session.calls ++ ops.flatMap fun op => (client.plan op).calls := by
  induction ops generalizing session with
  | nil => exact (List.append_nil _).symm
  | cons op ops ih =>
    show (client.performAll answer ((client.plan op).perform answer session).2 ops).2.calls = _
    rw [ih, Plan.calls_perform, List.append_assoc, List.flatMap_cons]

/-- One more operation adds its calls, whatever those before it were. -/
theorem calls_performAll_concat (session : Session σ) (ops : List Operation) (op : Operation) :
    (client.performAll answer session (ops ++ [op])).2.calls
      = (client.performAll answer session ops).2.calls ++ (client.plan op).calls := by
  rw [calls_performAll, calls_performAll, List.flatMap_append, List.flatMap_singleton,
    List.append_assoc]

/-- The outcome of an operation inside a run, by the state in which the operations before it leave
the transport. -/
theorem getElem?_performAll (session : Session σ) (ops : List Operation) (i : Nat) :
    (client.performAll answer session ops).1[i]?
      = ops[i]?.map fun op => (client.plan op).run
          (answer.inState (client.performAll answer session (ops.take i)).2.state) := by
  induction ops generalizing session i with
  | nil => rfl
  | cons op ops ih =>
    let first := (client.plan op).perform answer session
    show (first.1 :: (client.performAll answer first.2 ops).1)[i]? = _
    cases i with
    | zero =>
      have hfirst : first.1 = (client.plan op).run (answer.inState session.state) :=
        Plan.outcome_perform answer session (client.plan op)
      rw [List.getElem?_cons_zero, hfirst]
      rfl
    | succ i =>
      rw [List.getElem?_cons_succ, ih]
      rfl

end Client

/-- **What reaches the transport, over whole runs.**  The log of a run holds, in order, what each of
its operations sends by the settings of the client.  Each outcome is that of the operation alone,
over the transport as it answers after the operations before.  So an operation that is carried out
in two runs, after whatever other operations and over whatever transports, adds the same calls to
both logs, and it has the same outcome in both if the answers to its own calls are the same. -/
theorem Client.run_sends_requests {σ σ' : Type} (vocabulary : Vocabulary)
    (institution ipAddress : String) (scopes : Option String) (answer : StatefulTransport σ)
    (answer' : StatefulTransport σ') (session : Session σ) (session' : Session σ')
    (ops ops' : List Operation) :
    let client := Client.new vocabulary institution ipAddress scopes
    let run := client.performAll answer session ops
    let run' := client.performAll answer' session' ops'
    run.2.calls.map Call.request
      = session.calls.map Call.request ++
        ops.flatMap (Operation.requests vocabulary (originPairs institution ipAddress scopes)) ∧
    (∀ i : Nat, run.1[i]? = ops[i]?.map fun op => (client.plan op).run
      (answer.inState (client.performAll answer session (ops.take i)).2.state)) ∧
    ∀ op : Operation, ∃ sent : List Call,
      sent.map Call.request
        = op.requests vocabulary (originPairs institution ipAddress scopes) ∧
      (client.performAll answer session (ops ++ [op])).2.calls = run.2.calls ++ sent ∧
      (client.performAll answer' session' (ops' ++ [op])).2.calls = run'.2.calls ++ sent ∧
      ((∀ call ∈ sent, (answer run.2.state call).1 = (answer' run'.2.state call).1) →
        (client.performAll answer session (ops ++ [op])).1[ops.length]?
          = (client.performAll answer' session' (ops' ++ [op])).1[ops'.length]?) := by
  intro client run run'
  have hsent : ∀ op, ((client.plan op).calls).map Call.request
      = op.requests vocabulary (originPairs institution ipAddress scopes) :=
    sent_plan vocabulary institution ipAddress scopes
  refine ⟨?_, client.getElem?_performAll answer session ops, ?_⟩
  · have hcalls : run.2.calls = session.calls ++ ops.flatMap fun op => (client.plan op).calls :=
      client.calls_performAll answer session ops
    rw [hcalls, List.map_append, List.map_flatMap]
    simp only [hsent]
  · intro op
    refine ⟨(client.plan op).calls, hsent op, client.calls_performAll_concat answer session ops op,
      client.calls_performAll_concat answer' session' ops' op, ?_⟩
    intro hanswers
    have hsame : (client.plan op).run (answer.inState run.2.state)
        = (client.plan op).run (answer'.inState run'.2.state) :=
      (client.plan op).run_congr hanswers
    rw [getElem?_performAll, getElem?_performAll, List.take_left, List.take_left,
      List.getElem?_concat_length, List.getElem?_concat_length]
    exact congrArg some hsame

/-- A search, three operations that send nothing, and a lookup over a transport whose second call
fails: it fails as it does alone over one that cannot be reached. -/
theorem Client.run_sends_requests_failing :
    let failing : StatefulTransport Nat := fun n _ =>
      (if n = 1 then .error .unreachable else .ok "", n + 1)
    let closed : StatefulTransport Unit := fun _ _ => (.error .unreachable, ())
    let client := Client.new ⟨.empty, .empty⟩ "inst" "" (some "main")
    let ops : List Operation :=
      [.search [.filter ⟨"a", "x,y"⟩] 1 10, .compile [.filter ⟨"a", "x"⟩],
        .search [.filter ⟨"", "x"⟩] 1 10, .documents []]
    (client.performAll failing ⟨0, []⟩ ops).2.calls.map Call.request
      = [([("query", "a,exact,x y"), ("institution", "inst"), ("ip", ""),
          ("loc", "local,scope:(main)")], 1, 10)] ∧
    (client.performAll failing ⟨0, []⟩ (ops ++ [.documents ["b", "c OR"]])).1[4]?
      = (client.performAll closed ⟨(), []⟩ [.documents ["b", "c OR"]]).1[0]? := by
  intro failing closed client ops
  obtain ⟨hlog, -, hsame⟩ := Client.run_sends_requests ⟨.empty, .empty⟩ "inst" "" (some "main")
    failing closed ⟨0, []⟩ ⟨(), []⟩ ops []
  constructor
  · refine hlog.trans ?_
    decide +kernel
  · obtain ⟨sent, -, -, -, houtcome⟩ := hsame (.documents ["b", "c OR"])
    have hstate : (client.performAll failing ⟨0, []⟩ ops).2.state = 1 := by decide +kernel
    refine houtcome fun call _ => ?_
    show (failing (client.performAll failing ⟨0, []⟩ ops).2.state call).1 = .error .unreachable
    rw [hstate]
    rfl

end BriefSearch
