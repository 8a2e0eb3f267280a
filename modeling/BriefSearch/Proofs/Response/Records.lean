import BriefSearch.Client
import BriefSearch.Proofs.OrderedMap
import BriefSearch.Proofs.Xml.Elements

/-!
# Looking records up

A response may hold several records of one id.  Whichever way a record is looked up, in a response
or through a client, it is the last one of its id in document order.

* **`Response.HoldsAt`**, **`Response.IsLast`** — the elements with records of an id, and the last
  of them;
* **`Response.isLast_document?`** — a lookup by id finds it;
* **`Response.get?_documents`**, **`Response.keys_documents`** — all records together;
* **`Client.run_documents`** — what a client makes of a response;
* **`Client.record_lookups`** — all lookups agree.
-/

namespace BriefSearch

namespace Response

variable (response : Response) (id : String)

/-! ### The last record of an id -/

/-- At a place in the response there is an element with a record of the id. -/
structure HoldsAt (place : List Nat) (node : Xml.Node) : Prop where
  mem : ⟨place, node⟩ ∈ Xml.Located.below [] response.root
  isDoc : node.hasName (searchName "DOC") = true
  recordId : recordId? node = some id

/-- Nothing where the response has no record of the id, and otherwise the record for which no other
one comes later in document order. -/
def IsLast : Option Doc → Prop
  | none => ∀ place node, ¬ response.HoldsAt id place node
  | some doc => doc.id = id ∧ ∃ place, response.HoldsAt id place doc.node ∧
      ∀ place' node, response.HoldsAt id place' node → place' ≤ place

/-- The elements with records of the id. -/
theorem filter_docs :
    response.docs.filter (·.id = id)
      = (response.root.nodes.filter fun node =>
          node.hasName (searchName "DOC") && recordId? node = some id).map (Doc.mk id) := by
  rw [docs, OrderedMap.filter_filterMap_key recordId? (fun _ _ => rfl) id,
    Xml.Node.elements_singleton, List.filter_filter]
  simp only [Bool.and_comm]

/-- **A lookup by id finds the last record of the id.** -/
theorem isLast_document? : response.IsLast id (response.document? id) := by
  rw [document?, filter_docs, List.getLast?_map]
  cases hlast : (response.root.nodes.filter fun node =>
      node.hasName (searchName "DOC") && recordId? node = some id).getLast? with
  | none =>
    intro place node hholds
    have hnone := List.filter_eq_nil_iff.1 (List.getLast?_eq_none_iff.1 hlast) node
      (Xml.Node.mem_nodes_of_mem_below hholds.mem)
    exact hnone (by simp [hholds.isDoc, hholds.recordId])
  | some node =>
    obtain ⟨place, hmem, hnode, hbehind⟩ := Xml.Node.exists_place_of_getLast? hlast
    rw [Bool.and_eq_true, decide_eq_true_eq] at hnode
    refine ⟨rfl, place, ⟨hmem, hnode.1, hnode.2⟩, ?_⟩
    intro place' node' hholds
    exact hbehind _ hholds.mem (by simp [hholds.isDoc, hholds.recordId])

/-- **All records together keep the last of each id.** -/
theorem get?_documents : response.documents.get? id = response.document? id := by
  rw [documents, OrderedMap.get?_ofList, OrderedMap.last?, List.filter_map, List.getLast?_map,
    Option.map_map, document?]
  exact Option.map_id_apply

/-- The ids stand in the order in which they first occur, each once. -/
theorem keys_documents :
    response.documents.keys
      = distinct ((response.root.elements [searchName "DOC"]).filterMap recordId?) := by
  have hid : ∀ node, ((recordId? node).map fun id => Doc.mk id node).map (·.id)
      = recordId? node := by
    intro node
    rw [Option.map_map]
    exact Option.map_id_apply
  rw [documents, OrderedMap.keys_ofList, List.map_map, docs, List.map_filterMap]
  exact congrArg distinct (List.filterMap_congr fun node _ => hid node)

end Response

theorem Response.parse_eq_ok_iff {document : String} {response : Response} :
    Response.parse document = .ok response ↔ Xml.parse? document = some response.root := by
  unfold Response.parse
  cases Xml.parse? document with
  | none => simp
  | some root =>
    simp only [Except.ok.injEq, Option.some.injEq]
    exact ⟨fun h => by rw [← h], fun h => by rw [h]⟩

/-! ### Through a client -/

theorem Plan.run_map {α β : Type} (f : α → β) (plan : Plan α) (transport : Transport) :
    (plan.map f).run transport = (plan.run transport).map f := by
  cases plan with
  | done outcome => rfl
  | ask call read =>
    rw [map, run, run]
    cases transport call with
    | error fault => rfl
    | ok answer => rfl

namespace Client

variable {client : Client} {ids : List String} {transport : Transport} {body : String}
  {response : Response}

/-- A client asks for the records of some ids and gives all records of the response. -/
theorem run_documents (hids : ids ≠ []) (hbody : ∀ call, transport call = .ok body)
    (hresponse : Response.parse body = .ok response) :
    (client.documents ids).run transport = .ok (response.documents.mapValues (·.record)) := by
  rw [documents, if_neg (by simpa using hids), Plan.run, hbody]
  show readRecords body = _
  unfold readRecords
  rw [hresponse]

/-- For a single id it gives the record of that id. -/
theorem run_document (id : String) (hbody : ∀ call, transport call = .ok body)
    (hresponse : Response.parse body = .ok response) :
    (client.document id).run transport = .ok ((response.document? id).map (·.record)) := by
  rw [document, Plan.run_map, run_documents (List.cons_ne_nil id []) hbody hresponse, Except.map,
    OrderedMap.get?_mapValues, Response.get?_documents]

/-- **All lookups of a record agree.**  A lookup by id in a response, all its records by id, the
records that a client gives for some ids and the record it gives for a single one are the last
record of the id in document order, or nothing where there is none.  The ids of all records are
those of the elements that have one, in the order in which they first occur. -/
theorem record_lookups (hids : ids ≠ []) (hbody : ∀ call, transport call = .ok body)
    (hresponse : Response.parse body = .ok response) :
    (∀ id, ∃ last : Option Doc, response.IsLast id last ∧
      response.document? id = last ∧
      response.documents.get? id = last ∧
      (∃ records, (client.documents ids).run transport = .ok records ∧
        records.get? id = last.map (·.record)) ∧
      (client.document id).run transport = .ok (last.map (·.record)) ∧
      ∀ doc ∈ last, doc.record.recordId = id) ∧
    response.documents.keys
      = distinct ((response.root.elements [Response.searchName "DOC"]).filterMap
          Response.recordId?) ∧
    response.documents.keys.Nodup := by
  refine ⟨?_, response.keys_documents, ?_⟩
  · intro id
    have hlast := response.isLast_document? id
    refine ⟨response.document? id, hlast, rfl, response.get?_documents id, ?_,
      run_document id hbody hresponse, ?_⟩
    · refine ⟨_, run_documents hids hbody hresponse, ?_⟩
      rw [OrderedMap.get?_mapValues, Response.get?_documents]
    · intro doc hdoc
      rw [Option.mem_def] at hdoc
      rw [hdoc] at hlast
      exact hlast.1
  · rw [Response.keys_documents]
    exact nodup_distinct _

/-- A record whose id stands there twice, once between spaces. -/
theorem record_lookups_repeated :
    ∃ (body : String) (response : Response) (last : Doc),
      Response.parse body = .ok response ∧ response.documents.keys = ["a"] ∧
      response.IsLast "a" (some last) ∧ response.documents.get? "a" = some last ∧
      ((Client.new ⟨.empty, .empty⟩ "inst" "" none).document "a").run (fun _ => .ok body)
        = .ok (some last.record) ∧
      last.record.title = some "new" := by
  let doc (id title : String) : String := "<s:DOC><control><recordid>" ++ id ++
    "</recordid></control>" ++ "<addata><btitle>" ++ title ++ "</btitle></addata></s:DOC>"
  let body : String := "<s:SEGMENTS xmlns:s=\"http://www.exlibrisgroup.com" ++
    "/xsd/jaguar/search\" xmlns=\"" ++ "http://www.exlibrisgroup.com/xsd" ++
    "/primo/primo_nm_bib\">" ++ doc "a" "old" ++ doc " a " "new" ++ "</s:SEGMENTS>"
  -- The text is cut where it is put together, since long texts are slow to read.
  have hread : (Xml.parse? body).map (fun root =>
      ((Response.mk root).documents.keys, ((Response.mk root).document? "a").bind (·.record.title)))
      = some (["a"], some "new") := by
    simp only [Xml.parse?, body, doc, String.toList_append]
    decide +kernel
  obtain ⟨root, hroot, hfacts⟩ := Option.map_eq_some_iff.1 hread
  obtain ⟨hkeys, htitle⟩ := Prod.mk.inj hfacts
  obtain ⟨last, hlast, htitle⟩ := Option.bind_eq_some_iff.1 htitle
  have hresponse : Response.parse body = .ok ⟨root⟩ := Response.parse_eq_ok_iff.2 hroot
  obtain ⟨hlookups, -, -⟩ := @record_lookups (.new ⟨.empty, .empty⟩ "inst" "" none) ["a"]
    (fun _ => .ok body) body ⟨root⟩ (List.cons_ne_nil _ _) (fun _ => rfl) hresponse
  obtain ⟨found, hfound, hdocument, hdocuments, -, hclient, -⟩ := hlookups "a"
  cases hdocument.symm.trans hlast
  exact ⟨body, ⟨root⟩, last, hresponse, hkeys, hfound, hdocuments, hclient, htitle⟩

end Client

end BriefSearch
