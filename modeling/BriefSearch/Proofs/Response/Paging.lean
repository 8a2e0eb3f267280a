import BriefSearch.Command.Run
import BriefSearch.Proofs.Text.Count
import Mathlib.Algebra.Order.Ring.Nat

/-!
# Hits behind the ones asked for

A search asks for a number of hits from a position on.  Whether more of them follow is worked out by
pages: the flag that is shown says whether a hit lies behind the page of the first hit asked for.

* **`Paging.hasMore_iff`**, **`Paging.toNat_pageOf`** — both parts of the flag as exact numbers;
* **`Paging.pageOf?`** — the page number with the steps that could be without a result, and
  **`Paging.pageOf?_eq`**: none of them is;
* **`Paging.pageEnd`** — the last position of the page that a position is on;
* **`Command.more_hits_flag`** — what the flag says about the hits that follow;
* **`Command.more_hits_flag_unaligned`** — a search from the middle of a page, for which the flag is
  set though no hit follows;
* **`Command.pages_exact`** — pages and hits counted exactly, up to the largest counts.
-/

namespace BriefSearch

/-- The value of a member of an object. -/
def Json.member? (name : String) : Json → Option Json
  | .object members => OrderedMap.lookup name members
  | _ => none

namespace Paging

variable {offset count : UInt64}

/-! ### Exact numbers -/

/-- Hits follow after some pages when there are more than the exact product tells. -/
theorem hasMore_iff (total page count : UInt64) :
    hasMore total page count = true ↔ page.toNat * count.toNat < total.toNat := by
  rw [hasMore, decide_eq_true_eq, Text.saturatingMul_lt_iff]

theorem toNat_ne_zero (hcount : 1 ≤ count) : count.toNat ≠ 0 :=
  Nat.ne_zero_of_lt (UInt64.le_iff_toNat_le.1 hcount)

/-- The position before a given one, counted from 0. -/
theorem toNat_before (offset : UInt64) :
    (if offset = 0 then 0 else offset - 1).toNat = offset.toNat - 1 := by
  split
  · rename_i hzero
    subst hzero
    rfl
  · rename_i hzero
    have hle : 1 ≤ offset := by
      rw [UInt64.le_iff_toNat_le]
      exact Nat.pos_of_ne_zero fun h => hzero (UInt64.toNat_inj.1 h)
    exact UInt64.toNat_sub_of_le offset 1 hle

/-- No page number is too large for a count. -/
theorem page_lt (offset count : UInt64) :
    (offset.toNat - 1) / count.toNat + 1 < Text.countLimit := by
  have hle := Nat.div_le_self (offset.toNat - 1) count.toNat
  have hlt : offset.toNat < Text.countLimit := offset.toNat_lt
  have hpos : 1 < Text.countLimit := by decide
  omega

theorem toNat_pageOf (hcount : 1 ≤ count) (offset : UInt64) :
    (pageOf offset count).toNat = (offset.toNat - 1) / count.toNat + 1 := by
  have hne : count ≠ 0 := by
    rintro rfl
    exact toNat_ne_zero hcount rfl
  rw [pageOf, if_neg hne, UInt64.toNat_add, UInt64.toNat_div, toNat_before]
  exact Nat.mod_eq_of_lt (page_lt offset count)

/-! ### Steps without a result -/

/-- A quotient; there is none by zero. -/
def quotient? (a b : UInt64) : Option UInt64 :=
  if b = 0 then none else some (a / b)

/-- A sum; there is none where it exceeds the largest count. -/
def sum? (a b : UInt64) : Option UInt64 :=
  if a.toNat + b.toNat < Text.countLimit then some (a + b) else none

/-- The page of a record, if every step on the way to it has a result. -/
def pageOf? (offset count : UInt64) : Option UInt64 :=
  if count = 0 then some 0
  else (quotient? (if offset = 0 then 0 else offset - 1) count).bind (sum? · 1)

/-- **Every record has a page**: nothing is divided by zero, and no page number is too large. -/
theorem pageOf?_eq (offset count : UInt64) : pageOf? offset count = some (pageOf offset count) := by
  by_cases hzero : count = 0
  · rw [pageOf?, if_pos hzero, pageOf, if_pos hzero]
  · have hlt : ((if offset = 0 then 0 else offset - 1) / count).toNat + (1 : UInt64).toNat
        < Text.countLimit := by
      rw [UInt64.toNat_div, toNat_before]
      exact page_lt offset count
    rw [pageOf?, if_neg hzero, quotient?, if_neg hzero, Option.bind_some, sum?, if_pos hlt, pageOf,
      if_neg hzero]

/-! ### The page of a position -/

/-- The last position of the page that a position is on, where pages are of `count` positions. -/
def pageEnd (offset count : UInt64) : Nat :=
  ((offset.toNat - 1) / count.toNat + 1) * count.toNat

theorem dvd_pageEnd (offset count : UInt64) : count.toNat ∣ pageEnd offset count :=
  Nat.dvd_mul_left _ _

theorem before_lt_pageEnd (hcount : 1 ≤ count) (offset : UInt64) :
    offset.toNat - 1 < pageEnd offset count := by
  have hlt := Nat.lt_mul_div_succ (offset.toNat - 1) (Nat.pos_of_ne_zero (toNat_ne_zero hcount))
  rwa [Nat.mul_comm] at hlt

/-- A position does not stand behind its page. -/
theorem le_pageEnd (hcount : 1 ≤ count) (offset : UInt64) :
    offset.toNat ≤ pageEnd offset count :=
  Nat.le_of_pred_lt (before_lt_pageEnd hcount offset)

/-- The page ends with `count` positions from the given one on, or earlier. -/
theorem pageEnd_le (offset count : UInt64) :
    pageEnd offset count ≤ offset.toNat - 1 + count.toNat := by
  have hle := Nat.div_mul_le_self (offset.toNat - 1) count.toNat
  rw [pageEnd, Nat.succ_mul]
  exact Nat.add_le_add_right hle _

/-- On the first position of a page, the page is what follows. -/
theorem pageEnd_of_dvd (haligned : count.toNat ∣ offset.toNat - 1) :
    pageEnd offset count = offset.toNat - 1 + count.toNat := by
  rw [pageEnd, Nat.succ_mul, Nat.div_mul_cancel haligned]

theorem hasMore_pageOf_iff (hcount : 1 ≤ count) (total offset : UInt64) :
    hasMore total (pageOf offset count) count = true ↔ pageEnd offset count < total.toNat := by
  rw [hasMore_iff, toNat_pageOf hcount, pageEnd]

/-- Positions count from 1, and one before the first counts as the first. -/
theorem max_sub_one (offset : UInt64) : max offset.toNat 1 - 1 = offset.toNat - 1 := by
  omega

/-- **The page of a position holds it**: fewer records stand on the pages before it, and no fewer on
the pages up to it. -/
theorem pageOf_bounds (hcount : 1 ≤ count) (offset : UInt64) :
    1 ≤ pageOf offset count ∧
    ((pageOf offset count).toNat - 1) * count.toNat ≤ max offset.toNat 1 - 1 ∧
    max offset.toNat 1 - 1 < (pageOf offset count).toNat * count.toNat := by
  rw [UInt64.le_iff_toNat_le, max_sub_one, toNat_pageOf hcount]
  refine ⟨Nat.le_add_left 1 _, ?_, before_lt_pageEnd hcount offset⟩
  rw [Nat.add_sub_cancel]
  exact Nat.div_mul_le_self (offset.toNat - 1) count.toNat

/-- **Hits behind the ones asked for are behind the page as well**, also where no hits are asked
for. -/
theorem hasMore_pageOf {total offset count : UInt64}
    (hmore : max offset.toNat 1 - 1 + count.toNat < total.toNat) :
    hasMore total (pageOf offset count) count = true := by
  rw [max_sub_one] at hmore
  by_cases hcount : 1 ≤ count
  · rw [hasMore_pageOf_iff hcount]
    exact Nat.lt_of_le_of_lt (pageEnd_le offset count) hmore
  · have hzero : count.toNat = 0 := by
      rw [UInt64.le_iff_toNat_le] at hcount
      exact Nat.eq_zero_of_not_pos hcount
    rw [hasMore_iff, hzero, Nat.mul_zero]
    exact Nat.zero_lt_of_lt hmore

end Paging

namespace Command

open Paging

variable (settings : Settings) (facets : Bool) (response : Response)

/-- The flag is shown under its name. -/
theorem member?_resultJson (offset count : UInt64) :
    (resultJson settings offset count facets response).member? "has_more_results"
      = some (.bool (hasMore response.totalHits (pageOf offset count) count)) := by
  rw [resultJson, Json.member?, List.cons_append, OrderedMap.lookup, if_neg (by decide),
    List.cons_append, OrderedMap.lookup, if_pos rfl]

/-- **The flag of a search tells whether hits follow the page of the first one asked for.**  This
page ends on a multiple of the number of hits asked for, not before the first hit asked for and not
behind the last one.  So the flag is set wherever hits follow the ones asked for.  Where the first
hit asked for begins a page, it is set nowhere else; in general it is set besides exactly where the
hits end behind that page but not behind the last one asked for. -/
theorem more_hits_flag {count : UInt64} (hcount : 1 ≤ count) (offset : UInt64) :
    ∃ (flag : Bool) (pageEnd : Nat),
      (resultJson settings offset count facets response).member? "has_more_results"
        = some (.bool flag) ∧
      count.toNat ∣ pageEnd ∧ offset.toNat ≤ pageEnd ∧
      pageEnd ≤ (offset.toNat - 1) + count.toNat ∧
      (flag = true ↔ response.totalHits.toNat > pageEnd) ∧
      (response.totalHits.toNat > (offset.toNat - 1) + count.toNat → flag = true) ∧
      (count.toNat ∣ offset.toNat - 1 →
        (flag = true ↔ response.totalHits.toNat > (offset.toNat - 1) + count.toNat)) ∧
      ((flag = true ↔ response.totalHits.toNat > (offset.toNat - 1) + count.toNat) ↔
        ¬ (pageEnd < response.totalHits.toNat ∧
          response.totalHits.toNat ≤ (offset.toNat - 1) + count.toNat)) := by
  have hflag := hasMore_pageOf_iff hcount response.totalHits offset
  have hle := pageEnd_le offset count
  refine ⟨_, pageEnd offset count, member?_resultJson settings facets response offset count,
    dvd_pageEnd offset count, le_pageEnd hcount offset, hle, hflag, ?_, ?_, ?_⟩
  · intro hmore
    exact hflag.2 (Nat.lt_of_le_of_lt hle hmore)
  · intro haligned
    rw [hflag, pageEnd_of_dvd haligned]
  · rw [hflag]
    omega

/-- Of twelve hits, ten are asked for from the eleventh on: none follow, and the flag says so. -/
theorem more_hits_flag_aligned :
    ∃ response : Response, response.totalHits = 12 ∧ (1 : UInt64) ≤ 10 ∧
      (resultJson .empty 11 10 false response).member? "has_more_results"
        = some (.bool false) := by
  let response : Response :=
    ⟨.element (Response.searchName "DOCSET") [⟨⟨none, "TOTALHITS"⟩, "12"⟩] []⟩
  have htotal : response.totalHits = 12 := by decide +kernel
  obtain ⟨flag, -, hmember, -, -, -, -, -, haligned, -⟩ :=
    more_hits_flag .empty false response (show (1 : UInt64) ≤ 10 by decide) 11
  have hflag := haligned (by decide)
  rw [htotal] at hflag
  have hfalse : flag = false := by
    rw [← Bool.not_eq_true, hflag]
    decide
  subst hfalse
  exact ⟨response, htotal, by decide, hmember⟩

/-- Of twelve hits, ten are asked for from the fifth on: none follow, and yet the flag is set. -/
theorem more_hits_flag_unaligned :
    ∃ response : Response,
      Response.parse ("<s:DOCSET xmlns:s=\"http://www.exlibrisgroup.com/xsd/jaguar/search\" " ++
        "TOTALHITS=\"12\"/>") = .ok response ∧
      (resultJson .empty 5 10 false response).member? "has_more_results" = some (.bool true) ∧
      ¬ response.totalHits.toNat > ((5 : UInt64).toNat - 1) + (10 : UInt64).toNat := by
  obtain ⟨response, hresponse, htotal⟩ := Expression.exists_of_map_eq_ok (show
    (Response.parse ("<s:DOCSET xmlns:s=\"http://www.exlibrisgroup.com/xsd/jaguar/search\" " ++
      "TOTALHITS=\"12\"/>")).map (·.totalHits) = .ok 12 by decide +kernel)
  refine ⟨response, hresponse, ?_, ?_⟩
  · rw [member?_resultJson, htotal]
    rfl
  · rw [htotal]
    decide

/-- **Pages are exact, up to the largest counts.**  Hits follow a number of pages when there are more
than the exact product, though the product that is worked out has a largest value.  The page of a
position is worked out without a division by zero or a sum that is too large; where pages hold any
records at all, it is the page that holds the position, counted from 1.  Wherever hits follow the
ones asked for, the flag of the search is set. -/
theorem pages_exact (total page offset count : UInt64) :
    (hasMore total page count = true ↔ page.toNat * count.toNat < total.toNat) ∧
    pageOf? offset count = some (pageOf offset count) ∧
    (1 ≤ count → 1 ≤ pageOf offset count ∧
      ((pageOf offset count).toNat - 1) * count.toNat ≤ max offset.toNat 1 - 1 ∧
      max offset.toNat 1 - 1 < (pageOf offset count).toNat * count.toNat) ∧
    (total.toNat > max offset.toNat 1 - 1 + count.toNat →
      hasMore total (pageOf offset count) count = true ∧
      ∀ settings facets response, response.totalHits = total →
        (resultJson settings offset count facets response).member? "has_more_results"
          = some (.bool true)) := by
  refine ⟨hasMore_iff total page count, pageOf?_eq offset count,
    fun hcount => pageOf_bounds hcount offset, ?_⟩
  intro hmore
  have hflag := hasMore_pageOf hmore
  refine ⟨hflag, ?_⟩
  intro settings facets response htotal
  rw [member?_resultJson, htotal, hflag]

/-- With the largest count of hits: no hit follows 2 ^ 63 pages of two, whose product is too large;
the last position of all is on the last of these pages; and one hit follows the position before it,
from which one hit is asked for. -/
theorem pages_exact_at_limit :
    hasMore 18446744073709551615 9223372036854775808 2 = false ∧
    pageOf? 18446744073709551615 2 = some 9223372036854775808 ∧
    (1 : UInt64) ≤ 2 ∧
    max (18446744073709551615 : UInt64).toNat 1 - 1
      < (pageOf 18446744073709551615 2).toNat * (2 : UInt64).toNat ∧
    hasMore 18446744073709551615 (pageOf 18446744073709551614 1) 1 = true := by
  have hcount : (1 : UInt64) ≤ 2 := by decide
  obtain ⟨hproduct, hpage, hbounds, -⟩ :=
    pages_exact 18446744073709551615 9223372036854775808 18446744073709551615 2
  obtain ⟨-, -, -, hmore⟩ := pages_exact 18446744073709551615 0 18446744073709551614 1
  refine ⟨?_, hpage, hcount, (hbounds hcount).2.2, (hmore (by decide)).1⟩
  rw [← Bool.not_eq_true, hproduct]
  decide

end Command

end BriefSearch
