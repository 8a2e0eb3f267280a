import BriefSearch.Command.Run
import BriefSearch.Proofs.Query.Parameters
import BriefSearch.Proofs.Query.Queries

/-!
# What a search sends

The command that shows parameters and the command that searches come to their settings in different
ways.  Variables of the environment replace entries of a search's settings but never how fields and
values are called, so that both commands have the same queries for an expression.

* **`load_eq_ok_iff`**, **`compileExpression_eq_ok_iff`**, **`compileExpression_eq_error_iff`** —
  when the steps of a command succeed;
* **`exists_mappings_of_connection`** — the settings of both commands have one vocabulary;
* **`call?_searchTask`**, **`searchTask_of_error`** — what a search does with an expression that has
  parameters, and with one that has none;
* **`search_sends_what_compile_shows`** — the two commands side by side.
-/

namespace BriefSearch.Command

theorem mapError_eq_ok_iff {ε ε' α : Type} {f : ε → ε'} {step : Except ε α} {a : α} :
    step.mapError f = .ok a ↔ step = .ok a := by
  cases step with
  | error fault => simp [Except.mapError]
  | ok b => simp [Except.mapError]

/-! ### Settings -/

/-- The settings of a search are those of the file, with variables in the place of entries. -/
theorem load_eq_ok_iff {surroundings : Surroundings} {config : Option String}
    {settings : Settings} :
    Settings.load surroundings config = .ok settings ↔ ∃ written,
      Settings.ofFile? surroundings config = .ok written ∧ settings.validate = .ok () ∧
      written.overridden surroundings.allVariables.get? = settings := by
  unfold Settings.load
  cases Settings.ofFile? surroundings config with
  | error fault => simp
  | ok written =>
    dsimp only
    cases hvalid : (written.overridden surroundings.allVariables.get?).validate with
    | error fault =>
      simp only [Except.map, reduceCtorEq, false_iff, Except.ok.injEq, exists_eq_left', not_and]
      rintro hsettings rfl
      rw [hvalid] at hsettings
      cases hsettings
    | ok _ =>
      simp only [Except.map, Except.ok.injEq, exists_eq_left']
      constructor
      · rintro rfl
        exact ⟨hvalid, rfl⟩
      · rintro ⟨-, rfl⟩
        rfl

/-- No variable changes how fields and values are called. -/
theorem vocabulary_overridden (settings : Settings) (valueOf : String → Option String) :
    (settings.overridden valueOf).vocabulary = settings.vocabulary :=
  rfl

/-- **Both commands have one vocabulary**, whatever variables are set. -/
theorem exists_mappings_of_connection {surroundings : Surroundings} {config : Option String}
    {settings : Settings} (h : connection surroundings config = .ok settings) :
    ∃ shown, mappings surroundings config = .ok shown ∧
      shown.vocabulary = settings.vocabulary := by
  rw [connection, described, mapError_eq_ok_iff, mapError_eq_ok_iff, load_eq_ok_iff] at h
  obtain ⟨written, hwritten, -, rfl⟩ := h
  refine ⟨written, ?_, (vocabulary_overridden written _).symm⟩
  cases config with
  | none =>
    cases hwritten
    rfl
  | some path =>
    rw [mappings, described, mapError_eq_ok_iff, mapError_eq_ok_iff]
    exact hwritten

/-! ### Expressions -/

section

variable {settings : Settings} {expression : String}

theorem compileExpression_eq_ok_iff {p : Parameters} :
    compileExpression settings expression = .ok p ↔ ∃ ss,
      statements expression = .ok ss ∧ settings.vocabulary.compile ss = .ok p := by
  unfold compileExpression
  cases statements expression with
  | error fault => simp
  | ok ss =>
    simp only [undescribed, mapError_eq_ok_iff, Except.ok.injEq, exists_eq_left']

theorem compileExpression_eq_error_iff {fault : CommandFault} :
    compileExpression settings expression = .error fault ↔
      statements expression = .error fault ∨ ∃ ss cause, statements expression = .ok ss ∧
        settings.vocabulary.compile ss = .error cause ∧ ⟨[], .ofCompileFault cause⟩ = fault := by
  unfold compileExpression
  cases statements expression with
  | error fault' => simp
  | ok ss =>
    dsimp only
    cases hcompile : settings.vocabulary.compile ss with
    | error cause => simp [undescribed, Except.mapError, hcompile]
    | ok p => simp [undescribed, Except.mapError, hcompile]

theorem compileExpression_congr {settings' : Settings}
    (h : settings.vocabulary = settings'.vocabulary) :
    compileExpression settings expression = compileExpression settings' expression := by
  unfold compileExpression
  rw [h]

/-- A search compiles as its settings do and adds what every search carries. -/
theorem compile_ofSettings (ss : List Statement) :
    (Client.ofSettings settings).compile ss
      = ((settings.vocabulary.compile ss).mapError .ofCompileFault).map
          (·.merge (Client.ofSettings settings).defaults) := by
  have hvocabulary : (Client.ofSettings settings).vocabulary = settings.vocabulary := rfl
  unfold Client.compile
  rw [hvocabulary]
  cases settings.vocabulary.compile ss with
  | error fault => rfl
  | ok p => rfl

variable (offset count : UInt64) (facets : Bool)

/-- **Parameters that are shown are sent**, with what every search carries behind them. -/
theorem call?_searchTask {p : Parameters} (h : compileExpression settings expression = .ok p) :
    (searchTask settings expression offset count facets).call?
      = some ⟨p.merge (Client.ofSettings settings).defaults, offset, count⟩ := by
  obtain ⟨ss, hss, hp⟩ := compileExpression_eq_ok_iff.1 h
  unfold searchTask Client.search
  rw [hss]
  dsimp only
  rw [compile_ofSettings, hp]
  rfl

/-- **Without parameters nothing is sent**, and the search fails for the same cause. -/
theorem searchTask_of_error {fault : CommandFault}
    (h : compileExpression settings expression = .error fault) :
    ∃ fault', searchTask settings expression offset count facets = .finished (.error fault') ∧
      fault'.cause = fault.cause := by
  unfold searchTask
  rcases compileExpression_eq_error_iff.1 h with hss | ⟨ss, cause, hss, hcause, rfl⟩
  · rw [hss]
    exact ⟨fault, rfl, rfl⟩
  · unfold Client.search
    rw [hss]
    dsimp only
    rw [compile_ofSettings, hcause]
    exact ⟨_, rfl, rfl⟩

end

/-- What every search carries leaves the queries as they are. -/
theorem queries_merge_defaults (settings : Settings) (queries : List String) :
    (((Parameters.ofQueries queries).merge (Client.ofSettings settings).defaults).get?
      queryParameter).getD [] = queries := by
  rw [Client.ofSettings, Parameters.get?_merge_of_notMem _
    (Client.queryParameter_notMem_defaults _ _ _ _), Parameters.get?_ofQueries]

theorem toJson_ofQueries (queries : List String) :
    (Parameters.ofQueries queries).toJson
      = .object (if queries = [] then [] else [(queryParameter, .texts queries)]) := by
  unfold Parameters.toJson Parameters.ofQueries
  split
  · rfl
  · rfl

/-- **A search sends what is shown for its expression.**  Where the settings of a search can be
used, so can those of the command that shows parameters, and the search makes a call exactly when
there are parameters to show.  The queries of the call are then those that are printed, in order.
Otherwise the search makes no call and fails for the cause that is reported in place of parameters.
-/
theorem search_sends_what_compile_shows {surroundings : Surroundings} {config : Option String}
    {settings : Settings} (hconnection : connection surroundings config = .ok settings)
    (expression : String) (offset count : UInt64) (facets verbose verbose' : Bool) :
    let search := Task.of surroundings
      ⟨config, verbose, .search expression offset count facets⟩
    let compile := Task.of surroundings ⟨config, verbose', .compile expression⟩
    ∃ shown, mappings surroundings config = .ok shown ∧
      (search.call?.isSome ↔ ∃ p, compileExpression shown expression = .ok p) ∧
      (∀ p, compileExpression shown expression = .ok p → ∃ call queries,
        search.call? = some call ∧ (call.parameters.get? queryParameter).getD [] = queries ∧
        p = .ofQueries queries ∧
        compile = .finished (.ok (printed (.object
          (if queries = [] then [] else [(queryParameter, .texts queries)]))))) ∧
      ∀ fault, compileExpression shown expression = .error fault →
        compile = .finished (.error fault) ∧ search.call? = none ∧
        ∃ fault', search = .finished (.error fault') ∧ fault'.cause = fault.cause := by
  intro search compile
  obtain ⟨shown, hshown, hvocabulary⟩ := exists_mappings_of_connection hconnection
  have hsearch : search = searchTask settings expression offset count facets := by
    show Task.of _ _ = _
    unfold Task.of
    dsimp only
    rw [hconnection]
  have hcompile : compile = .finished ((compileExpression shown expression).map fun p =>
      printed p.toJson) := by
    show Task.of _ _ = _
    unfold Task.of compiled
    dsimp only
    rw [hshown]
  have hsame : compileExpression shown expression = compileExpression settings expression :=
    compileExpression_congr hvocabulary
  refine ⟨shown, hshown, ?_, ?_, ?_⟩
  · constructor
    · intro hcall
      cases hresult : compileExpression shown expression with
      | ok p => exact ⟨p, rfl⟩
      | error fault =>
        obtain ⟨fault', htask, -⟩ := searchTask_of_error offset count facets (hsame ▸ hresult)
        rw [hsearch, htask] at hcall
        cases hcall
    · rintro ⟨p, hp⟩
      rw [hsearch, call?_searchTask offset count facets (hsame ▸ hp)]
      rfl
  · intro p hp
    obtain ⟨ss, -, hqueries⟩ := compileExpression_eq_ok_iff.1 hp
    obtain ⟨-, queries, -, -, rfl⟩ := shown.vocabulary.compile_eq_ok_iff.1 hqueries
    refine ⟨_, queries, hsearch ▸ call?_searchTask offset count facets (hsame ▸ hp), ?_, rfl, ?_⟩
    · exact queries_merge_defaults settings queries
    · rw [hcompile, hp, ← toJson_ofQueries]
      rfl
  · intro fault hfault
    obtain ⟨fault', htask, hcause⟩ := searchTask_of_error offset count facets (hsame ▸ hfault)
    rw [hcompile, hsearch, htask, hfault]
    exact ⟨rfl, rfl, fault', rfl, hcause⟩

/-- A file names fields, and variables say where the service is. -/
theorem search_sends_what_compile_shows_mapped :
    let surroundings : Surroundings :=
      ⟨[(baseUrlVariable, "http://h")], fun path =>
        if path = environmentFile then some "PRIMO_INSTITUTION=x"
        else if path = "p" then some "institution: y\nfield_mapping:\n  type: rtype" else none⟩
    let search := Task.of surroundings ⟨some "p", false, .search "type:(a OR b)" 1 10 false⟩
    ∃ call, search.call? = some call ∧
      (call.parameters.get? queryParameter).getD [] = ["rtype,exact,a OR b"] ∧
      Task.of surroundings ⟨some "p", false, .compile "type:(a OR b)"⟩
        = .finished (.ok (printed (.object [(queryParameter, .texts ["rtype,exact,a OR b"])]))) := by
  intro surroundings search
  have hconnection : connection surroundings (some "p")
      = .ok ⟨"http://h", "x", "", none, ⟨[("type", "rtype")]⟩, .empty⟩ := by
    decide +kernel
  have hmappings : mappings surroundings (some "p")
      = .ok ⟨"", "y", "", none, ⟨[("type", "rtype")]⟩, .empty⟩ := by
    decide +kernel
  have hqueries :
      compileExpression ⟨"", "y", "", none, ⟨[("type", "rtype")]⟩, .empty⟩ "type:(a OR b)"
        = .ok (.ofQueries ["rtype,exact,a OR b"]) := by
    decide +kernel
  obtain ⟨shown, hshown, -, hok, -⟩ := search_sends_what_compile_shows hconnection
    "type:(a OR b)" 1 10 false false false
  cases hshown.symm.trans hmappings
  obtain ⟨call, queries, hcall, hsent, he, hprinted⟩ := hok _ hqueries
  cases Parameters.ofQueries_inj he
  exact ⟨call, hcall, hsent, hprinted⟩

end BriefSearch.Command
