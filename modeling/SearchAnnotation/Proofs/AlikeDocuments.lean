import SearchAnnotation.Proofs.ExactValues
import SearchAnnotation.Proofs.StoredPages
import SearchAnnotation.Value.Equality

/-!
# Documents that are alike

A value that is like the document of a page is the document of a page too: it has the same fields,
perhaps in another order, and what they hold is alike. Such a value can hence be read, and the page
that is read has alike fields.
-/

namespace SearchAnnotation

/-- Numbers that agree are zero together. -/
theorem Binary64.isZero_eq_of_agree {x y : Binary64} (h : x.agree y = true) :
    x.isZero = y.isZero := by
  simp only [agree, Bool.and_eq_true, Bool.or_eq_true, beq_iff_eq] at h
  rcases h.2 with rfl | hzero
  · rfl
  · rw [hzero.1, hzero.2]

namespace Value

variable {v w : Value} {fields others : List (Name × Value)}

/-- Fields are alike just if each of the first ones is like the one of its name among the others. -/
theorem alikeFields_iff : alikeFields fields others = true ↔
    ∀ field ∈ fields, ∃ w, others.lookup field.1 = some w ∧ field.2.alike w = true := by
  induction fields with
  | nil => exact iff_of_true rfl fun field hm => nomatch hm
  | cons field rest ih =>
    rw [alikeFields, Bool.and_eq_true, ih, List.forall_mem_cons]
    refine and_congr_left fun _ => ?_
    cases others.lookup field.1 with
    | none => exact iff_of_false Bool.false_ne_true fun ⟨w, hw, _⟩ => nomatch hw
    | some w => exact ⟨fun h => ⟨w, rfl, h⟩, fun ⟨w', hw, h⟩ => Option.some.inj hw ▸ h⟩

/-- What is like an object is an object with as many fields. -/
theorem exists_of_alike_object (h : (Value.object fields).alike w = true) :
    ∃ others, w = .object others ∧ others.length = fields.length ∧
      alikeFields fields others = true := by
  cases w with
  | object others =>
    rw [alike, Bool.and_eq_true, beq_iff_eq] at h
    exact ⟨others, rfl, h.1.symm, h.2⟩
  | _ => simp [alike, agree] at h

/-- Of values that are alike and neither lists nor objects, one is the other or agrees with it. -/
theorem alike_of_isKey (h : v.isKey = true) : v.alike w = (v == w || v.agree w) := by
  cases v with
  | list items => cases h
  | object fields => cases h
  | _ => rw [alike] <;> nofun

/-- Lists that are alike are of one length. -/
theorem length_eq_of_alikeItems {items others : List Value} (h : alikeItems items others = true) :
    items.length = others.length := by
  induction items generalizing others with
  | nil => cases others with
    | nil => rfl
    | cons => cases h
  | cons v rest ih => cases others with
    | nil => cases h
    | cons w more =>
      rw [alikeItems, Bool.and_eq_true] at h
      rw [List.length_cons, List.length_cons, ih h.2]

/-- Keys that agree count as given together. -/
theorem isTrivial_eq_of_agree (key : v.isKey = true) (h : v.agree w = true) :
    v.isTrivial = w.isTrivial := by
  have hbool : ∀ b : Bool, (ofBool b == 0) = !b := by decide
  have hfloat : ∀ {x : Binary64} {n : ℤ}, x.toInt? = some n → x.isZero = (n == 0) :=
    Binary64.isZero_of_toInt?
  cases v <;> cases w <;> simp only [agree, Bool.false_eq_true, beq_iff_eq] at h
  case null.null => rfl
  case bool.bool a b => rw [h]
  case bool.int b n => rw [isTrivial, isTrivial, ← h, hbool]
  case int.bool n b => rw [isTrivial, isTrivial, h, hbool]
  case bool.float b x => rw [isTrivial, isTrivial, hfloat h, hbool]
  case float.bool x b => rw [isTrivial, isTrivial, hfloat h, hbool]
  case int.int m n => rw [h]
  case int.float n x => rw [isTrivial, isTrivial, hfloat h]
  case float.int x n => rw [isTrivial, isTrivial, hfloat h]
  case float.float x y => exact Binary64.isZero_eq_of_agree h
  case text.text s t => rw [h]
  case unpaired.unpaired a b => rw [h]
  case list.list => cases key
  case object.object => cases key

/-- Values that are alike count as given together. -/
theorem isTrivial_eq_of_alike (h : v.alike w = true) : v.isTrivial = w.isTrivial := by
  cases hkey : v.isKey with
  | true =>
    rw [alike_of_isKey hkey, Bool.or_eq_true, beq_iff_eq] at h
    rcases h with rfl | h
    · rfl
    · exact isTrivial_eq_of_agree hkey h
  | false =>
    cases v with
    | list items =>
      cases w with
      | list others =>
        have hlength := length_eq_of_alikeItems h
        cases items <;> cases others <;> first | rfl | cases hlength
      | _ => simp [alike, agree] at h
    | object fields =>
      obtain ⟨others, rfl, hlength, -⟩ := exists_of_alike_object h
      cases fields <;> cases others <;> first | rfl | cases hlength
    | _ => cases hkey

end Value

namespace Webpage

variable {page other : Webpage} {document : Value}

/-- Whether two pages have alike fields. -/
structure Alike (page other : Webpage) : Prop where
  /-- The addresses are alike. -/
  url : page.url.alike other.url = true
  /-- The titles are alike. -/
  title : page.title.alike other.title = true
  /-- The sites are alike. -/
  site : page.site.alike other.site = true
  /-- The domains are alike. -/
  domain : page.domain.alike other.domain = true
  /-- The addresses for display are alike. -/
  prettyUrl : page.prettyUrl.alike other.prettyUrl = true
  /-- The snippets are alike. -/
  snippet : page.snippet.alike other.snippet = true
  /-- The signals are alike. -/
  rankingSignals :
    (Value.object page.rankingSignals).alike (.object other.rankingSignals) = true

/-- A page is read back from its document if its title survives the reading. -/
theorem settled_iff_title : page.Settled ↔ page.title.orElse (.text "") = page.title := by
  refine ⟨fun h => ?_, settled_of_title⟩
  obtain ⟨fields, hfields, h⟩ := Outcome.bind_eq_ok.mp h
  cases hfields
  obtain ⟨url, -, h⟩ := Outcome.bind_eq_ok.mp h
  obtain ⟨signals, -, h⟩ := Outcome.bind_eq_ok.mp h
  exact congrArg Webpage.title (Except.ok.inj h)

/-- What is like a title that survives the reading does so too. -/
theorem alike_orElse {v w : Value} (hv : v.orElse (.text "") = v) (h : v.alike w = true) :
    v.alike (w.orElse (.text "")) = true := by
  have htrivial := Value.isTrivial_eq_of_alike h
  unfold Value.orElse at hv ⊢
  split
  · next hw =>
    rw [htrivial, hw, if_pos rfl] at hv
    rw [← hv]
    decide
  · exact h

/-- A document that is like that of a page is read as a page with alike fields. -/
theorem exists_of_alike (settled : page.Settled) (h : page.toDocument.alike document = true) :
    ∃ other, ofDocument document = .ok other ∧ page.Alike other := by
  obtain ⟨others, rfl, -, hfields⟩ := Value.exists_of_alike_object h
  simp only [Value.alikeFields_iff, List.forall_mem_cons, List.not_mem_nil, false_implies,
    implies_true, and_true] at hfields
  obtain ⟨⟨url, hurl, url'⟩, ⟨title, htitle, title'⟩, ⟨site, hsite, site'⟩,
    ⟨domain, hdomain, domain'⟩, ⟨pretty, hpretty, pretty'⟩, ⟨snippet, hsnippet, snippet'⟩,
    ⟨signals, hsignals, signals'⟩⟩ := hfields
  obtain ⟨fields, rfl, -, -⟩ := Value.exists_of_alike_object signals'
  have hread : Signals.ofDocument (either others "rankingSignals" "ranking_signals") =
      .ok fields := by
    rw [either, Fields.get?, hsignals]
    exact Signals.ofDocument_object fields
  have haddress : urlOf others = .ok url := by
    rw [urlOf, Fields.get?, hurl]
  refine ⟨_, Outcome.bind_eq_ok.mpr ⟨others, rfl, Outcome.bind_eq_ok.mpr ⟨url, haddress,
    Outcome.bind_eq_ok.mpr ⟨fields, hread, rfl⟩⟩⟩, ?_⟩
  have hget : ∀ {name : String} {w : Value}, others.lookup (.text name) = some w →
      Fields.get others name = w := by
    intro name w hw
    rw [Fields.get, Fields.get?, hw]
    rfl
  constructor
  case url => exact url'
  case title =>
    rw [hget htitle]
    exact alike_orElse (settled_iff_title.mp settled) title'
  case site => rw [hget hsite]; exact site'
  case domain => rw [hget hdomain]; exact domain'
  case prettyUrl =>
    rw [either, Fields.get?, hpretty]
    exact pretty'
  case snippet => rw [hget hsnippet]; exact snippet'
  case rankingSignals => exact signals'

end Webpage

end SearchAnnotation
