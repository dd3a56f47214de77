import CitationFusion.Config.Read
import CitationFusion.Proofs.Trimming
import Mathlib.Data.List.Forall2

/-!
# Configurations that are accepted

A configuration is accepted as it was written, but for the addresses of HTTP services: those lose
the white space around them and the slashes at their end, once. White space before these slashes
is at the end then, and stays there.

* `Accepted`, `validate_eq_ok_iff` : what is asked of a configuration.
* `Trimmed`, `trimmed_trimUrl` : what is left of an address.
* `Exposed`, `trimUrl_trimUrl_iff` : whether anything would be left of that to trim.
* `parse_settled` : what a configuration that is accepted has of what was written.
-/

namespace CitationFusion

/-! ## 1. What is asked -/

namespace Config

theorem demand_eq_ok_iff {holds : Bool} {problem : Problem} :
    demand holds problem = .ok () ↔ holds = true := by
  cases holds <;> simp [demand]

/-- A check behind another one is passed if both are. -/
theorem andThen_eq_ok_iff {p : Except Problem Unit} {q : Except Problem Unit} :
    (p >>= fun _ => q) = .ok () ↔ p = .ok () ∧ q = .ok () := by
  cases p with
  | error problem => exact ⟨nofun, fun h => nomatch h.1⟩
  | ok u => exact ⟨fun h => ⟨rfl, h⟩, fun h => h.2⟩

/-- What is asked of a database. -/
structure Database.Accepted (d : Database) : Prop where
  dsn : Text.isBlankText d.dsn = false
  pool : d.poolMaxConns ≠ 0

theorem Database.check_eq_ok_iff {label : String} {d : Database} :
    d.check label = .ok () ↔ d.Accepted := by
  unfold Database.check
  rw [andThen_eq_ok_iff, demand_eq_ok_iff, demand_eq_ok_iff]
  simp only [Bool.not_eq_true', bne_iff_ne]
  exact ⟨fun h => ⟨h.1, h.2⟩, fun h => ⟨h.dsn, h.pool⟩⟩

/-- What is asked of a store of metadata. -/
def Backend.Accepted : Backend → Prop
  | .http url => isHttpUrl url = true
  | .postgres database => database.Accepted

theorem Backend.check_eq_ok_iff {b : Backend} : b.check = .ok () ↔ b.Accepted := by
  cases b with
  | http url => exact demand_eq_ok_iff
  | postgres database => exact Database.check_eq_ok_iff

theorem checkBackends_eq_ok_iff {l : List Backend} :
    checkBackends l = .ok () ↔ ∀ b ∈ l, b.Accepted := by
  induction l with
  | nil => simp [checkBackends]
  | cons b l ih =>
    rw [List.forall_mem_cons, ← ih, ← Backend.check_eq_ok_iff, checkBackends]
    cases b.check with
    | error problem => exact ⟨nofun, fun h => nomatch h.1⟩
    | ok u => exact ⟨fun h => ⟨rfl, h⟩, fun h => h.2⟩

/-- What is asked of a configuration. -/
structure Accepted (c : Config) : Prop where
  httpBind : Text.isBlankText c.service.httpBind = false
  requestTimeout : c.service.requestTimeoutMs ≠ 0
  identifiers : c.storage.identifiers.Accepted
  citations : c.storage.citations.Accepted
  indexTimeout : c.indexData.timeoutMs ≠ 0
  nonempty : c.indexData.backends ≠ []
  backends : ∀ b ∈ c.indexData.backends, b.Accepted
  ttl : c.cache.enabled = true → c.cache.ttlSecs ≠ 0
  sweepInterval : c.cache.enabled = true → c.cache.sweepIntervalSecs ≠ 0

theorem Caching.check_eq_ok_iff {c : Caching} : c.check = .ok () ↔
    (c.enabled = true → c.ttlSecs ≠ 0) ∧ (c.enabled = true → c.sweepIntervalSecs ≠ 0) := by
  unfold Caching.check
  cases c.enabled with
  | false => simp
  | true => simp [andThen_eq_ok_iff, demand_eq_ok_iff]

/-- **A configuration passes if it is as asked.** -/
theorem validate_eq_ok_iff {c : Config} : c.validate = .ok () ↔ c.Accepted := by
  unfold validate
  simp only [andThen_eq_ok_iff, demand_eq_ok_iff, Database.check_eq_ok_iff,
    checkBackends_eq_ok_iff, Caching.check_eq_ok_iff, Bool.not_eq_true', bne_iff_ne,
    List.isEmpty_eq_false_iff]
  constructor
  · rintro ⟨h1, h2, h3, h4, h5, h6, h7, h8, h9⟩
    exact ⟨h1, h2, h3, h4, h5, h6, h7, h8, h9⟩
  · rintro ⟨h1, h2, h3, h4, h5, h6, h7, h8, h9⟩
    exact ⟨h1, h2, h3, h4, h5, h6, h7, h8, h9⟩

end Config

/-! ## 2. Addresses -/

namespace Config

open Text

/-- Whether a character is a slash. -/
def isSlash (c : Char) : Bool := c == '/'

/-- What is left of an address: it loses the white space around it, and then the slashes at its
    end. If there are none, it does not end in white space either. -/
structure Trimmed (url url' : String) : Prop where
  split : ∃ before slashes behind,
    url.toList = before ++ (url'.toList ++ (slashes ++ behind)) ∧
    (∀ c ∈ before, isBlank c = true) ∧ (∀ c ∈ slashes, isSlash c = true) ∧
    (∀ c ∈ behind, isBlank c = true) ∧ (slashes = [] → ¬ EndsIn isBlank url'.toList)
  begins : ¬ BeginsIn isBlank url'.toList
  ends : ¬ EndsIn isSlash url'.toList

theorem toList_trimUrl (url : String) :
    (trimUrl url).toList = dropEnd isSlash (dropEnd isBlank (url.toList.dropWhile isBlank)) :=
  String.toList_ofList

/-- **An address in normal form is trimmed.** -/
theorem trimmed_trimUrl (url : String) : Trimmed url (trimUrl url) := by
  obtain ⟨before, behind, hcs, hbefore, hbehind, hbegins, hbare⟩ := trim_split url.toList
  obtain ⟨slashes, htrim, hslashes⟩ := dropEnd_split isSlash (trim url.toList)
  have hurl : dropEnd isSlash (trim url.toList) = (trimUrl url).toList := (toList_trimUrl url).symm
  rw [hurl] at htrim
  rw [htrim, List.append_assoc] at hcs
  refine ⟨⟨before, slashes, behind, hcs, hbefore, hslashes, hbehind, ?_⟩, fun h => hbegins ?_, ?_⟩
  · rintro rfl
    rw [List.append_nil] at htrim
    rwa [← htrim]
  · rw [htrim]
    exact h.append _
  · rw [toList_trimUrl]
    exact not_endsIn_dropEnd

/-- **What is trimmed is left as it is exactly if it does not end in white space.** -/
theorem trimUrl_eq_self_iff {url url' : String} (h : Trimmed url url') :
    trimUrl url' = url' ↔ ¬ EndsIn isBlank url'.toList := by
  rw [← String.toList_inj, toList_trimUrl, dropWhile_eq_self_iff.2 h.begins]
  constructor
  · intro hsame hends
    -- without the white space at its end it is shorter
    obtain ⟨slashes, hslashes, -⟩ := dropEnd_split isSlash (dropEnd isBlank url'.toList)
    obtain ⟨behind, hbehind, -⟩ := dropEnd_split isBlank url'.toList
    have hlength := congrArg List.length hbehind
    rw [hslashes, hsame] at hlength
    simp only [List.length_append] at hlength
    have hnil : behind = [] := List.eq_nil_of_length_eq_zero (by omega)
    rw [hnil, List.append_nil] at hbehind
    exact dropEnd_eq_self_iff.1 hbehind.symm hends
  · intro hbare
    rw [dropEnd_eq_self_iff.2 hbare, dropEnd_eq_self_iff.2 h.ends]

/-- Whether there is white space before the slashes at the end of an address, which is not the
    white space before all of it. -/
def Exposed (url : String) : Prop :=
  ∃ r c slashes behind, url.toList = r ++ c :: (slashes ++ behind) ∧ isBlank c = true ∧
    (∃ d ∈ r, isBlank d = false) ∧ slashes ≠ [] ∧ (∀ d ∈ slashes, isSlash d = true) ∧
    ∀ d ∈ behind, isBlank d = true

theorem not_isBlank_of_isSlash {c : Char} (h : isSlash c = true) : isBlank c = false := by
  rw [beq_iff_eq.1 h]
  decide

theorem endsIn_trimUrl_iff {url : String} : EndsIn isBlank (trimUrl url).toList ↔ Exposed url := by
  constructor
  · rintro ⟨r, c, hr, hc⟩
    obtain ⟨⟨before, slashes, behind, hurl, hbefore, hslashes, hbehind, hbare⟩, hbegins, -⟩ :=
      trimmed_trimUrl url
    refine ⟨before ++ r, c, slashes, behind, by simp [hurl, hr], hc, ?_,
      fun h => hbare h ⟨r, c, hr, hc⟩, hslashes, hbehind⟩
    cases r with
    | nil => exact absurd ⟨c, [], hr, hc⟩ hbegins
    | cons d r =>
      have hd : isBlank d = false := by
        by_contra hblank
        exact hbegins ⟨d, r ++ [c], hr, by simpa using hblank⟩
      exact ⟨d, by simp, hd⟩
  · rintro ⟨r, c, slashes, behind, hurl, hc, ⟨d, hd, hdark⟩, hne, hslashes, hbehind⟩
    -- there is something dark before `c`, so the first trimming leaves all from there on
    have hfront : url.toList.dropWhile isBlank =
        r.dropWhile isBlank ++ c :: (slashes ++ behind) := by
      rw [hurl, List.dropWhile_append, if_neg]
      rw [List.isEmpty_iff, List.dropWhile_eq_nil_iff]
      intro hall
      rw [hall d hd] at hdark
      cases hdark
    -- without what is behind the slashes the text ends in a slash, so no more white space goes
    have hbare : ¬ EndsIn isBlank (r.dropWhile isBlank ++ c :: slashes) := by
      rintro ⟨u, b, hu, hb⟩
      have hslash : slashes = slashes.dropLast ++ [slashes.getLast hne] :=
        (List.dropLast_append_getLast hne).symm
      rw [hslash, ← List.cons_append, ← List.append_assoc] at hu
      have hlast := List.append_inj_right' hu rfl
      rw [← List.singleton_inj.1 hlast,
        not_isBlank_of_isSlash (hslashes _ (List.getLast_mem hne))] at hb
      cases hb
    -- `c` is white space and no slash, so the slashes are all that goes next
    have hwhole : ¬ EndsIn isSlash (r.dropWhile isBlank ++ [c]) := by
      rintro ⟨u, b, hu, hb⟩
      have hlast := List.append_inj_right' hu rfl
      rw [← List.singleton_inj.1 hlast] at hb
      rw [not_isBlank_of_isSlash hb] at hc
      cases hc
    refine ⟨r.dropWhile isBlank, c, ?_, hc⟩
    calc (trimUrl url).toList
        = dropEnd isSlash (dropEnd isBlank (r.dropWhile isBlank ++ c :: slashes ++ behind)) := by
          rw [toList_trimUrl, hfront, List.append_assoc, List.cons_append]
      _ = dropEnd isSlash (r.dropWhile isBlank ++ [c] ++ slashes) := by
          rw [dropEnd_append hbehind, dropEnd_eq_self_iff.2 hbare, List.append_assoc,
            List.singleton_append]
      _ = r.dropWhile isBlank ++ [c] := by
          rw [dropEnd_append hslashes, dropEnd_eq_self_iff.2 hwhole]

/-- **An address in normal form is left as it is exactly if no white space was exposed.** -/
theorem trimUrl_trimUrl_iff {url : String} :
    trimUrl (trimUrl url) = trimUrl url ↔ ¬ Exposed url := by
  rw [trimUrl_eq_self_iff (trimmed_trimUrl url), endsIn_trimUrl_iff]

/-! ## 3. Configurations -/

/-- What is left of a store of metadata. -/
inductive Backend.Settled : Backend → Backend → Prop where
  | http {url url' : String} (trimmed : Trimmed url url') : Settled (.http url) (.http url')
  | postgres (database : Database) : Settled (.postgres database) (.postgres database)

theorem Backend.settled_normalize (b : Backend) : b.Settled b.normalize := by
  cases b with
  | http url => exact .http (trimmed_trimUrl url)
  | postgres database => exact .postgres database

theorem Backend.normalize_normalize_iff {b : Backend} :
    b.normalize.normalize = b.normalize ↔ ∀ url, b = .http url → ¬ Exposed url := by
  cases b with
  | http url =>
    simp only [Backend.normalize, Backend.http.injEq, trimUrl_trimUrl_iff, forall_eq']
  | postgres database => simp [Backend.normalize]

/-- **A second time, the normal form leaves a configuration as it is exactly if no white space was
    exposed** in an address of it. -/
theorem normalize_normalize_iff {d : Config} : d.normalize.normalize = d.normalize ↔
    ∀ url, .http url ∈ d.indexData.backends → ¬ Exposed url := by
  have hbackends : d.normalize.normalize = d.normalize ↔
      ∀ b ∈ d.indexData.backends, b.normalize.normalize = b.normalize := by
    simp only [normalize, List.map_map, Config.mk.injEq, IndexData.mk.injEq, true_and, and_true,
      List.map_inj_left, Function.comp_apply]
  rw [hbackends]
  constructor
  · intro h url hurl
    exact Backend.normalize_normalize_iff.1 (h _ hurl) url rfl
  · rintro h b hb
    exact Backend.normalize_normalize_iff.2 fun url hurl => h url (hurl ▸ hb)

/-- **What a configuration that is accepted has of what was written**: all but the addresses of
    HTTP services as it is there, and these trimmed. It is as asked, its addresses begin with no
    white space and end in no slash, and they end in white space, and would be trimmed again,
    exactly if that was exposed by the slashes behind it. -/
theorem parse_settled {text : String} {c : Config} (h : parse text = .ok c) :
    ∃ d, (Toml.parse text).bind ofMembers = some d ∧
      c = { d with indexData := { d.indexData with backends := c.indexData.backends } } ∧
      List.Forall₂ Backend.Settled d.indexData.backends c.indexData.backends ∧
      c.validate = .ok () ∧
      (∀ url, .http url ∈ c.indexData.backends → isHttpUrl url = true ∧
        ¬ BeginsIn isBlank url.toList ∧ ¬ EndsIn isSlash url.toList) ∧
      (c.normalize = c ↔ ∀ url, .http url ∈ d.indexData.backends → ¬ Exposed url) ∧
      (c.normalize = c ↔
        ∀ url, .http url ∈ c.indexData.backends → ¬ EndsIn isBlank url.toList) := by
  unfold parse parseFrom at h
  split at h
  · cases h
  · rename_i d hd
    simp only at h
    split at h
    · cases h
    · rename_i hvalid
      cases h
      have hbackends :
          d.normalize.indexData.backends = d.indexData.backends.map Backend.normalize := rfl
      have hhttp : ∀ url, .http url ∈ d.normalize.indexData.backends →
          ∃ written, .http written ∈ d.indexData.backends ∧ url = trimUrl written := by
        intro url hurl
        obtain ⟨b, hb, hnormal⟩ := List.mem_map.1 hurl
        cases b with
        | http written => exact ⟨written, hb, (Backend.http.inj hnormal).symm⟩
        | postgres database => exact nomatch hnormal
      refine ⟨d, hd, rfl, ?_, hvalid, fun url hurl => ?_, normalize_normalize_iff, ?_⟩
      · rw [hbackends, List.forall₂_map_right_iff]
        exact List.forall₂_same.2 fun b _ => b.settled_normalize
      · have haccepted := (validate_eq_ok_iff.1 hvalid).backends _ hurl
        obtain ⟨written, -, rfl⟩ := hhttp url hurl
        exact ⟨haccepted, (trimmed_trimUrl written).begins, (trimmed_trimUrl written).ends⟩
      · rw [normalize_normalize_iff]
        constructor
        · intro hall url hurl
          obtain ⟨written, hmem, rfl⟩ := hhttp url hurl
          exact fun hends => hall written hmem (endsIn_trimUrl_iff.1 hends)
        · intro hall written hmem hexposed
          exact hall _ (List.mem_map.2 ⟨_, hmem, rfl⟩) (endsIn_trimUrl_iff.2 hexposed)

/-- A configuration with one service over HTTP, the fields of its parts being written in order. -/
def sampleText (url : String) : String :=
  "service = [\"h\", \"i\"]\nstorage = [[\"i\", 1], [\"c\", 2]]\nindex_data = [5, [[\"http\", \"" ++
    url ++ "\"]]]\n"

/-- That configuration. -/
def sample (url : String) : Config :=
  ⟨⟨"h", "i", 30000, false⟩, ⟨⟨"i", 1⟩, ⟨"c", 2⟩⟩, ⟨5, [.http url]⟩, .standard⟩

/-- White space and slashes behind an address are gone for good. -/
theorem parse_settled_sample :
    parse (sampleText " http://x// ") = .ok (sample "http://x") ∧
      (sample "http://x").normalize = sample "http://x" := by
  have h : parse (sampleText " http://x// ") = .ok (sample "http://x") := by decide +kernel
  obtain ⟨d, -, -, -, -, -, -, hbare⟩ := parse_settled h
  refine ⟨h, hbare.2 fun url hurl hends => ?_⟩
  obtain rfl : url = "http://x" := by simpa [sample] using hurl
  obtain ⟨r, c, hr, hc⟩ := hends
  have hlast : "http://x".toList = "http://".toList ++ ['x'] := by decide
  rw [← List.singleton_inj.1 (List.append_inj_right' (hlast.symm.trans hr) rfl)] at hc
  exact absurd hc (by decide)

/-- White space before a slash comes to the end of an address, and only then would it be trimmed.
    What is left then need not be an address of HTTP. -/
theorem parse_unsettled_sample :
    parse (sampleText "http://x /") = .ok (sample "http://x ") ∧
      (sample "http://x ").normalize = sample "http://x" ∧ sample "http://x" ≠ sample "http://x " ∧
      parse (sampleText "http:// /") = .ok (sample "http:// ") ∧
      (sample "http:// ").normalize.validate = .error (.badUrl "http:") := by
  decide +kernel

end Config

end CitationFusion
