import SearchAnnotation.Proofs.CodePoints
import SearchAnnotation.Proofs.StoredPages
import SearchAnnotation.Result

/-!
# Results as they are built

The results built from a provider's records have ids made of the query's name and the address,
original ranks that count up from zero, no annotated rank, and pages that can be stored and read
again. Addresses that are kept differ from each other. If they are strings, so do the ids; for
other addresses that need not be so, since two of them can have one display text.
-/

namespace SearchAnnotation

namespace SearchResult

/-- Whether a record is an object whose address is a string. -/
def HasStringAddress (record : Value) : Prop :=
  ∃ fields address, record = .object fields ∧ Fields.get? fields "url" = some address ∧
    address.isString = true

/-- The code points of an id are those of the name of the query, a dash and those that show the
address. -/
@[simp]
theorem codes_resultId (qid : Name) (url : Value) :
    (resultId qid url).codes = qid.codes ++ '-'.toNat :: url.displayCodes := by
  rw [resultId, Name.codes_ofCodes]

/-- Under one name, ids meet just if the addresses are shown alike. -/
theorem resultId_eq_iff {qid : Name} {u v : Value} :
    resultId qid u = resultId qid v ↔ u.displayCodes = v.displayCodes := by
  rw [← Name.codes_inj, codes_resultId, codes_resultId, List.append_right_inj, List.cons.injEq]
  exact and_iff_right rfl

/-- The id of a text address joins the name of the query and the text. -/
theorem resultId_text (qid s : String) : resultId qid (.text s) = (qid ++ "-" ++ s : String) := by
  rw [← Name.codes_inj, codes_resultId]
  have hdash : "-".toList = ['-'] := rfl
  simp only [Name.codes, Value.displayCodes, Value.display, String.toList_append, List.map_append,
    hdash, List.map_cons, List.append_assoc, List.cons_append, List.nil_append]

/-- Whether a name is another one with a dash and more after it. -/
def Prolongs (name stem : String) : Prop := ∃ more, name = stem ++ "-" ++ more

/-- A name that begins like a joined id prolongs the name in front of it. -/
theorem prolongs_of_append {name stem : String} {more rest tail : List Nat} (apart : stem ≠ name)
    (hname : (name : Name).codes = (stem : Name).codes ++ more)
    (hrest : '-'.toNat :: rest = more ++ tail) : Prolongs name stem := by
  have hinj : ∀ c d : Char, c.toNat = d.toNat → c = d := fun c d h => Char.toNat_inj.mp h
  obtain ⟨front, back, hsplit, hfront, hback⟩ := List.map_eq_append_iff.mp hname
  have hstem : front = stem.toList := (List.map_inj_right hinj).mp hfront
  subst hstem
  cases back with
  | nil =>
    rw [List.append_nil] at hsplit
    exact absurd (String.toList_inj.mp hsplit.symm) apart
  | cons c after =>
    rw [← hback, List.map_cons, List.cons_append] at hrest
    have hdash : c = '-' := hinj c '-' (List.cons.inj hrest).1.symm
    refine ⟨String.ofList after, String.toList_inj.mp ?_⟩
    have hd : "-".toList = ['-'] := rfl
    rw [hsplit, hdash]
    simp only [String.toList_append, String.toList_ofList, hd, List.append_assoc,
      List.singleton_append]

/-- Under two names, ids can only meet when one name prolongs the other. -/
theorem prolongs_of_meet {p q : String} (apart : p ≠ q) {u v : Value}
    (meet : resultId p u = resultId q v) : Prolongs q p ∨ Prolongs p q := by
  have hcodes := congrArg Name.codes meet
  rw [codes_resultId, codes_resultId] at hcodes
  rcases List.append_eq_append_iff.mp hcodes with ⟨more, hq, hs⟩ | ⟨more, hp, ht⟩
  · exact .inl (prolongs_of_append apart hq hs)
  · exact .inr (prolongs_of_append apart.symm hp ht)

/-- When one name prolongs the other, ids of text addresses do meet. -/
theorem exists_meet_of_prolongs {p q : String} (h : Prolongs q p ∨ Prolongs p q) :
    ∃ s t : String, resultId p (.text s) = resultId q (.text t) := by
  rcases h with ⟨more, rfl⟩ | ⟨more, rfl⟩
  · refine ⟨more ++ "-", "", ?_⟩
    simp only [resultId_text, String.append_assoc, String.append_empty]
  · refine ⟨"", more ++ "-", ?_⟩
    simp only [resultId_text, String.append_assoc, String.append_empty]

section Building

variable {qid : Name} {seen : List Value} {rank : Nat} {record : Value} {records : List Value}
  {results : List SearchResult} {page : Webpage}

/-- A page that may be a result comes from its record, and its address can be a key. -/
theorem ofRecord_of_pageOf (h : pageOf record = .ok page) :
    Webpage.ofRecord record = .ok page ∧ page.url.isKey = true := by
  obtain ⟨page', hp, h⟩ := Outcome.bind_eq_ok.mp h
  by_cases hk : page'.url.isKey = true
  · rw [if_pos hk] at h
    cases h
    exact ⟨hp, hk⟩
  · rw [if_neg hk] at h
    cases h

/-- What building does with the first record: it drops an address seen before, and otherwise
puts a result in front of the later ones. -/
theorem buildFrom_cons_eq_ok :
    buildFrom qid seen rank (record :: records) = .ok results ↔
      ∃ page, pageOf record = .ok page ∧
        ((seen.any (sameAddress page.url) = true ∧ buildFrom qid seen rank records = .ok results) ∨
          (seen.any (sameAddress page.url) = false ∧ ∃ later,
            buildFrom qid (page.url :: seen) (rank + 1) records = .ok later ∧
              results = ⟨resultId qid page.url, rank, none, page⟩ :: later)) := by
  rw [buildFrom, Outcome.bind_eq_ok]
  constructor
  · rintro ⟨page, hp, h⟩
    refine ⟨page, hp, ?_⟩
    by_cases hs : seen.any (sameAddress page.url) = true
    · rw [if_pos hs] at h
      exact .inl ⟨hs, h⟩
    · rw [if_neg hs] at h
      obtain ⟨later, hl, h⟩ := Outcome.bind_eq_ok.mp h
      cases h
      exact .inr ⟨Bool.not_eq_true _ |>.mp hs, later, hl, rfl⟩
  · rintro ⟨page, hp, ⟨hs, h⟩ | ⟨hs, later, hl, rfl⟩⟩
    · exact ⟨page, hp, by rw [if_pos hs, h]⟩
    · refine ⟨page, hp, ?_⟩
      rw [if_neg (by simp only [hs, Bool.false_eq_true, not_false_eq_true]), hl]
      rfl

/-- What is known of one built result: how its id and rank came about, and its record. -/
structure IsBuilt (qid : Name) (records : List Value) (result : SearchResult) : Prop where
  /-- The id joins the query's name and the address. -/
  id_eq : result.id = resultId qid result.webpage.url
  /-- No annotator has ranked it. -/
  unranked : result.annotatedRank = none
  /-- The page was made from one of the records. -/
  page_of : ∃ record ∈ records, Webpage.ofRecord record = .ok result.webpage
  /-- Its address can be compared with others. -/
  key : result.webpage.url.isKey = true

theorem isBuilt_of_mem_buildFrom (h : buildFrom qid seen rank records = .ok results)
    {result : SearchResult} (hm : result ∈ results) : IsBuilt qid records result := by
  induction records generalizing seen rank results with
  | nil =>
    cases h
    cases hm
  | cons record rest ih =>
    have widen : IsBuilt qid rest result → IsBuilt qid (record :: rest) result := by
      rintro ⟨hi, hu, ⟨other, ho, hp⟩, hk⟩
      exact ⟨hi, hu, ⟨other, List.mem_cons_of_mem record ho, hp⟩, hk⟩
    obtain ⟨page, hp, ⟨-, h⟩ | ⟨-, later, hl, rfl⟩⟩ := buildFrom_cons_eq_ok.mp h
    · exact widen (ih h hm)
    · rcases List.mem_cons.mp hm with rfl | hm
      · obtain ⟨hpage, hkey⟩ := ofRecord_of_pageOf hp
        exact ⟨rfl, rfl, ⟨record, List.mem_cons_self, hpage⟩, hkey⟩
      · exact widen (ih hl hm)

/-- The ranks of built results count up from the first one. -/
theorem ranks_of_buildFrom (h : buildFrom qid seen rank records = .ok results) :
    results.map origRank = (List.range' rank results.length).map Int.ofNat := by
  induction records generalizing seen rank results with
  | nil =>
    cases h
    rfl
  | cons record rest ih =>
    obtain ⟨page, -, ⟨-, h⟩ | ⟨-, later, hl, rfl⟩⟩ := buildFrom_cons_eq_ok.mp h
    · exact ih h
    · rw [List.map_cons, ih hl, List.length_cons, List.range'_succ, List.map_cons]
      rfl

/-- The addresses that are kept were not seen before, and differ from each other. -/
theorem addresses_of_buildFrom (h : buildFrom qid seen rank records = .ok results) :
    (∀ result ∈ results, seen.any (sameAddress result.webpage.url) = false) ∧
      results.Pairwise fun a b => sameAddress b.webpage.url a.webpage.url = false := by
  induction records generalizing seen rank results with
  | nil =>
    cases h
    exact ⟨fun _ hm => (List.not_mem_nil hm).elim, .nil⟩
  | cons record rest ih =>
    obtain ⟨page, -, ⟨-, h⟩ | ⟨hs, later, hl, rfl⟩⟩ := buildFrom_cons_eq_ok.mp h
    · exact ih h
    · obtain ⟨hseen, hpair⟩ := ih hl
      have hsplit : ∀ result ∈ later, sameAddress result.webpage.url page.url = false ∧
          seen.any (sameAddress result.webpage.url) = false := by
        intro result hr
        simpa only [List.any_cons, Bool.or_eq_false_iff] using hseen result hr
      refine ⟨?_, List.pairwise_cons.mpr ⟨fun result hr => (hsplit result hr).1, hpair⟩⟩
      intro result hr
      rcases List.mem_cons.mp hr with rfl | hr
      · exact hs
      · exact (hsplit result hr).2

/-- Original ranks increase strictly along built results. -/
theorem ranks_increase_of_build (h : build qid records = .ok results) :
    results.Pairwise fun a b => a.origRank < b.origRank := by
  have hp : (results.map origRank).Pairwise (· < ·) := by
    rw [ranks_of_buildFrom h, List.pairwise_map]
    exact List.Pairwise.imp (fun hlt => Int.ofNat_lt.mpr hlt) List.pairwise_lt_range'
  exact List.pairwise_map.mp hp

/-- The original ranks of built results run from zero to one less than their number. -/
theorem rank_bounds_of_build (h : build qid records = .ok results) {result : SearchResult}
    (hm : result ∈ results) : 0 ≤ result.origRank ∧ result.origRank < results.length := by
  have hr : result.origRank ∈ results.map origRank := List.mem_map_of_mem hm
  rw [ranks_of_buildFrom h, List.mem_map] at hr
  obtain ⟨n, hn, he⟩ := hr
  obtain ⟨-, hlt⟩ := List.mem_range'_1.mp hn
  rw [← he]
  constructor
  · exact Int.natCast_nonneg n
  · have hz : n < results.length := by omega
    exact Int.ofNat_lt.mpr hz

/-- The page of a built result is read back from its document. -/
theorem IsBuilt.settled {result : SearchResult} (h : IsBuilt qid records result) :
    result.webpage.Settled := by
  obtain ⟨record, -, hp⟩ := h.page_of
  exact Webpage.settled_of_ofRecord hp

/-- Whether results have increasing ranks and pages that are read back from their documents. -/
structure Arranged (results : List SearchResult) : Prop where
  /-- The original ranks increase. -/
  increase : results.Pairwise fun a b => a.origRank < b.origRank
  /-- Each page is read back from its document. -/
  settled : ∀ result ∈ results, result.webpage.Settled

theorem arranged_of_build (h : build qid records = .ok results) : Arranged results :=
  ⟨ranks_increase_of_build h, fun _ hm => (isBuilt_of_mem_buildFrom h hm).settled⟩

/-- The address of a page is the one of its record. -/
theorem isString_url_of_ofRecord (address : HasStringAddress record)
    (h : Webpage.ofRecord record = .ok page) : page.url.isString = true := by
  obtain ⟨fields, url, rfl, hu, hs⟩ := address
  obtain ⟨fields', hf, h⟩ := Outcome.bind_eq_ok.mp h
  cases hf
  obtain ⟨url', hu', h⟩ := Outcome.bind_eq_ok.mp h
  rw [Webpage.urlOf, hu] at hu'
  cases hu'
  obtain ⟨snippet, -, h⟩ := Outcome.bind_eq_ok.mp h
  cases h
  exact hs

/-- Built results have string addresses if all records do. -/
theorem isString_url_of_build (strings : ∀ record ∈ records, HasStringAddress record)
    (h : build qid records = .ok results) {result : SearchResult} (hm : result ∈ results) :
    result.webpage.url.isString = true := by
  obtain ⟨record, hr, hp⟩ := (isBuilt_of_mem_buildFrom h hm).page_of
  exact isString_url_of_ofRecord (strings record hr) hp

/-- With string addresses, built results have different ids. -/
theorem nodup_ids_of_build (strings : ∀ record ∈ records, HasStringAddress record)
    (h : build qid records = .ok results) : (results.map SearchResult.id).Nodup := by
  refine List.pairwise_map.mpr ((addresses_of_buildFrom h).2.imp_of_mem ?_)
  intro a b ha hb hab he
  rw [(isBuilt_of_mem_buildFrom h ha).id_eq, (isBuilt_of_mem_buildFrom h hb).id_eq,
    resultId_eq_iff] at he
  have hurl : a.webpage.url = b.webpage.url :=
    Value.eq_of_displayCodes (isString_url_of_build strings h ha)
      (isString_url_of_build strings h hb) he
  rw [hurl, sameAddress, beq_self_eq_true, Bool.true_or] at hab
  cases hab

/-- The id of a built result is a text just if its address has no surrogate that stands alone, given
that the name of the query is a text. -/
theorem IsBuilt.hasTextId_iff {qid : String} {result : SearchResult}
    (h : IsBuilt qid records result) :
    result.hasTextId = true ↔ ∀ u, result.webpage.url ≠ .unpaired u := by
  have hqid : ∀ n ∈ (qid : Name).codes, (Encoding.charOf? n).isSome = true :=
    Encoding.isSome_charOf?_of_text qid.toList
  rw [hasTextId, h.id_eq, resultId, Name.text?_ofCodes_isSome, List.forall_mem_append,
    List.forall_mem_cons, and_iff_right hqid, and_iff_right (by rfl)]
  exact Value.displayCodes_text_iff

/-- Building from an answer is building from its elements. -/
theorem ofAnswer_eq_ok {answer : Value} :
    ofAnswer qid answer = .ok results ↔
      ∃ records, answer.elements = .ok records ∧ build qid records = .ok results :=
  Outcome.bind_eq_ok

end Building

/-- A record that has an address and nothing else. -/
def soleRecord (url : Value) : Value := .object [(.text "url", url)]

/-- The only result of a query whose answer is such a record. -/
def soleResult (qid : Name) (url : Value) : SearchResult :=
  ⟨resultId qid url, 0, none, ⟨url, .text "", .null, .null, .null, .null, []⟩⟩

theorem hasStringAddress_soleRecord {url : Value} (string : url.isString = true) :
    HasStringAddress (soleRecord url) :=
  ⟨_, url, rfl, rfl, string⟩

theorem build_soleRecord (qid : Name) (s : String) :
    build qid [soleRecord (.text s)] = .ok [soleResult qid (.text s)] := rfl

end SearchResult

end SearchAnnotation
