import BriefSearch.Proofs.Transport.FormEncoded
import BriefSearch.Transport.Service

/-!
# What a request carries

The target of the request for a call is the path of the search below the service's address, a
question mark and the names and values of the call.

* **`Address`** — an address by its parts, without query and fragment;
* **`Address.path?_searchUrl`** — the path of the search below it, however many slashes follow it;
* **`Service.target_carries_pairs`** — the target, and what is read back from it.
-/

namespace BriefSearch

/-- An address by its parts: a protocol, a host with its port, and a path, which is empty or begins
with a slash and does not end with one. -/
structure Address where
  scheme : String
  /-- Host and port. -/
  authority : String
  path : String
  slash_notMem_scheme : '/' ∉ scheme.toList
  authority_ne_empty : authority ≠ ""
  slash_notMem_authority : '/' ∉ authority.toList
  slash_of_head? : ∀ c ∈ path.toList.head?, c = '/'
  ne_slash_of_getLast? : ∀ c ∈ path.toList.getLast?, c ≠ '/'
  /-- There is no query and no fragment. -/
  plain : ∀ c ∈ authority.toList ++ path.toList, c ≠ '?' ∧ c ≠ '#'

/-! ### Texts with slashes -/

theorem dropWhile_slash_reverse {cs : List Char} (h : ∀ c ∈ cs.getLast?, c ≠ '/') (n : Nat) :
    ((cs ++ List.replicate n '/').reverse.dropWhile (· = '/')).reverse = cs := by
  have hslashes : ∀ c ∈ List.replicate n '/', decide (c = '/') = true := fun c hc =>
    decide_eq_true (List.eq_of_mem_replicate hc)
  have hkeep : cs.reverse.dropWhile (· = '/') = cs.reverse := by
    rw [← List.head?_reverse] at h
    cases hcs : cs.reverse with
    | nil => rfl
    | cons c rest =>
      rw [hcs] at h
      rw [List.dropWhile_cons_of_neg (by simpa using h c rfl)]
  rw [List.reverse_append, List.reverse_replicate, List.dropWhile_append_of_pos hslashes, hkeep,
    List.reverse_reverse]

namespace Address

variable (address : Address) (slashes : Nat)

/-- The service at an address that is written with a number of slashes at its end. -/
def service : Service where
  baseUrl := address.scheme ++ "://" ++ address.authority ++ address.path
    ++ .ofList (.replicate slashes '/')

/-- The address without slashes at its end. -/
def characters : List Char :=
  address.scheme.toList ++ "://".toList ++ (address.authority.toList ++ address.path.toList)

theorem getLast?_characters : ∀ c ∈ address.characters.getLast?, c ≠ '/' := by
  intro c hc
  have hauthority : address.authority.toList ≠ [] := by
    rw [ne_eq, String.toList_eq_nil_iff]
    exact address.authority_ne_empty
  rw [characters, List.getLast?_append_of_ne_nil _ (List.append_ne_nil_of_left_ne_nil hauthority _)]
    at hc
  rcases hpath : address.path.toList with _ | ⟨d, ds⟩
  · rw [hpath, List.append_nil] at hc
    rintro rfl
    exact address.slash_notMem_authority (List.mem_of_getLast? hc)
  · rw [List.getLast?_append_of_ne_nil _ (by simp [hpath])] at hc
    exact address.ne_slash_of_getLast? c hc

/-- The slashes at the end of an address are not part of the address of the search. -/
theorem searchUrl_service : (address.service slashes).searchUrl
    = address.characters ++ ['/'] ++ Service.searchPath.toList := by
  have hbase : (address.service slashes).baseUrl.toList
      = address.characters ++ List.replicate slashes '/' := by
    simp only [service, characters, String.toList_append, String.toList_ofList, List.append_assoc]
  rw [Service.searchUrl, hbase, dropWhile_slash_reverse address.getLast?_characters]

/-- The path of the search stands below the path of the address. -/
theorem path?_searchUrl : Service.path? (address.service slashes).searchUrl
    = some (address.path.toList ++ ['/'] ++ Service.searchPath.toList) := by
  have hauthority : ∀ c ∈ address.authority.toList, decide (c ≠ '/') = true := by
    intro c hc
    rw [decide_eq_true_eq]
    rintro rfl
    exact address.slash_notMem_authority hc
  have hpath : ∀ behind : List Char, (address.path.toList ++ '/' :: behind).dropWhile (· ≠ '/')
      = address.path.toList ++ '/' :: behind := by
    intro behind
    have hhead := address.slash_of_head?
    cases hcs : address.path.toList with
    | nil => rfl
    | cons c rest =>
      rw [hcs] at hhead
      rw [List.cons_append, List.dropWhile_cons_of_neg (by simpa using hhead c rfl)]
  have hcut : Text.cut? "://".toList (address.characters ++ ['/'] ++ Service.searchPath.toList)
      = some (address.scheme.toList, address.authority.toList ++
          (address.path.toList ++ '/' :: Service.searchPath.toList)) := by
    have hmark := Text.cut?_of_second_notMem (show ':' ≠ '/' by decide) ['/']
      address.slash_notMem_scheme
      (address.authority.toList ++ (address.path.toList ++ '/' :: Service.searchPath.toList))
    simp only [characters, List.append_assoc, List.singleton_append] at hmark ⊢
    exact hmark
  rw [Service.path?, searchUrl_service, hcut, Option.map_some]
  simp only [List.dropWhile_append_of_pos hauthority, hpath, List.append_assoc,
    List.singleton_append]

end Address

namespace Service

/-- **A request carries the names and values of its call.**  Its target is the path of the address,
however many slashes follow it there, the path of the search, a question mark and a query string;
and from this query string exactly the parameters of the call are read in their order, and behind
them the position and the number of the records wanted, whatever characters names and values
have. -/
theorem target_carries_pairs (address : Address) (slashes : Nat) (call : Call) :
    ∃ query : String,
      (address.service slashes).target? call
        = some (address.path ++ "/PrimoWebServices/xservice/search/brief" ++ "?" ++ query) ∧
      '?' ∉ (address.path ++ "/PrimoWebServices/xservice/search/brief").toList ∧
      (∀ c ∈ query.toList,
        c.isAlphanum ∨ c ∈ ['*', '-', '.', '_', '+', '%', '=', '&']) ∧
      FormEncoded.decodePairs? query = some (call.parameters.toPairs ++
        [("indx", toString call.offset.toNat), ("bulkSize", toString call.count.toNat)]) ∧
      ∀ server : Server, (address.service slashes).transport server call
        = ((server (address.path ++ "/PrimoWebServices/xservice/search/brief" ++ "?" ++ query)).elim
            (.error .unreachable) (·.text)) := by
  have hsearch : "/PrimoWebServices/xservice/search/brief".toList = '/' :: searchPath.toList := by
    decide
  have hpath : String.ofList (address.path.toList ++ ['/'] ++ searchPath.toList)
      = address.path ++ "/PrimoWebServices/xservice/search/brief" := by
    apply String.toList_inj.1
    rw [String.toList_ofList, String.toList_append, hsearch, List.append_assoc,
      List.singleton_append]
  have htarget : (address.service slashes).target? call
      = some (address.path ++ "/PrimoWebServices/xservice/search/brief" ++ "?"
          ++ FormEncoded.encodePairs call.pairs) := by
    rw [target?, address.path?_searchUrl, Option.map_some, hpath]
  refine ⟨FormEncoded.encodePairs call.pairs, htarget, ?_, ?_, ?_, ?_⟩
  · rw [String.toList_append, List.mem_append, not_or]
    refine ⟨fun h => (address.plain '?' (List.mem_append_right _ h)).1 rfl, ?_⟩
    rw [hsearch]
    decide
  · intro c hc
    have hmark := FormEncoded.mark_of_mem_encodePairs hc
    simp only [FormEncoded.isKept, Bool.or_eq_true, decide_eq_true_eq] at hmark
    rcases hmark with ((((h | h) | h) | h) | h) | h | h | h | h <;> simp [h]
  · rw [FormEncoded.decodePairs?_encodePairs, Call.pairs]
  · intro server
    rw [transport, htarget, Option.bind_some]
    cases server _ <;> rfl

/-- Separators, a percent sign and a letter of two bytes in a value, a parameter of the name that
the position has, and two slashes behind the address. -/
theorem target_carries_pairs_reserved :
    ∃ (call : Call) (query : String),
      call.parameters.toPairs = [("query", "a&b=1,exact,50% +é#"), ("indx", "7")] ∧
      (Service.mk "http://primo.example.org:1701/ctx//").target? call
        = some ("/ctx/PrimoWebServices/xservice/search/brief?" ++ query) ∧
      FormEncoded.decodePairs? query = some [("query", "a&b=1,exact,50% +é#"), ("indx", "7"),
        ("indx", "11"), ("bulkSize", "10")] := by
  let address : Address :=
    ⟨"http", "primo.example.org:1701", "/ctx", by decide, by decide, by decide, by simp, by simp,
      by simp⟩
  let call : Call := ⟨.ofPairs [("query", "a&b=1,exact,50% +é#"), ("indx", "7")], 11, 10⟩
  have hpairs : call.parameters.toPairs = [("query", "a&b=1,exact,50% +é#"), ("indx", "7")] := by
    decide
  obtain ⟨query, htarget, -, -, hquery, -⟩ := target_carries_pairs address 2 call
  have hpaging : [("indx", toString call.offset.toNat), ("bulkSize", toString call.count.toNat)]
      = [("indx", "11"), ("bulkSize", "10")] := by decide +kernel
  rw [hpairs, hpaging] at hquery
  have hservice : address.service 2 = Service.mk "http://primo.example.org:1701/ctx//" :=
    congrArg Service.mk (by decide)
  have hpath : address.path ++ "/PrimoWebServices/xservice/search/brief" ++ "?"
      = "/ctx/PrimoWebServices/xservice/search/brief?" := by decide
  rw [hservice, hpath] at htarget
  exact ⟨call, query, hpairs, htarget, hquery⟩

end Service

end BriefSearch
