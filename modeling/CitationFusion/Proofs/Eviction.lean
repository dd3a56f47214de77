import CitationFusion.Proofs.Fusion
import CitationFusion.Proofs.Request

/-!
# Entries that are of no use

An entry that is dead, or whose text is no document, is the same as none.

* `Entry.Spent` : such an entry.
* `Unserved.of_spent` : a record with such an entry is looked for in vain, and the entry is gone
  then.
* `Session.followed_spent` : the record is resolved afresh, as it is without the entry.
* `Session.resolve_spent` : so the request does not differ from one that finds nothing, but for an
  event where it removes a text that is no document, and no entry makes a request fail.
-/

namespace CitationFusion

open Plan Plan.Deed

/-! ## 1. Looking for a record in vain -/

/-- The empty text is no document. -/
theorem Json.isDocument_nil : Json.isDocument [] = false := by
  have hskim : Json.skim [] = .error (.onNext .endInValue []) := by
    rw [Json.skim, Json.skimFrom]
    rfl
  rw [Json.isDocument, Json.checkDocument, hskim]
  rfl

/-- Whether an entry is of no use at some time: it is dead by then, or its text is no document. -/
def Entry.Spent (e : Entry) (now : Instant) : Prop :=
  e.alive now = false ∨ Json.isDocument e.value = false

/-- What is logged when an entry is of no use that is found at some time. -/
def Entry.warnings (e : Entry) (now : Instant) (id : String) : List Event :=
  if e.alive now then [.evictedCorrupt id] else []

namespace Unserved

variable {c c' : Cache} {t : Instant} {id : String} {e : Entry} {before : List StoreDeed}

/-- **A record with an entry of no use is looked for in vain**, and the entry is gone then. -/
theorem of_spent (h : Unserved true c t id before c') (found : c.find? id = some e) :
    c' = c.delete id ∧ notes before = e.warnings t id := by
  unfold Entry.warnings
  -- a dead entry goes when it is looked for; one that is alive is no document, and is evicted
  cases alive : e.alive t with
  | true =>
    have hget := Cache.get_of_alive found alive
    cases h with
    | plain uncached => cases uncached
    | missing _ missing =>
      rw [hget] at missing
      cases missing
    | corrupt =>
      rw [hget]
      exact ⟨rfl, rfl⟩
  | false =>
    have hget : c.get t id = (none, c.delete id) := by
      simp only [Cache.get, found, alive, Bool.false_eq_true, if_false]
    cases h with
    | plain uncached => cases uncached
    | missing =>
      rw [hget]
      exact ⟨rfl, rfl⟩
    | corrupt _ found' =>
      rw [hget] at found'
      cases found'

/-- Where there is no entry, looking for one changes nothing. -/
theorem of_none (h : Unserved true c t id before c') (absent : c.find? id = none) :
    c' = c ∧ notes before = [] := by
  have hget : c.get t id = (none, c) := by simp only [Cache.get, absent]
  cases h with
  | plain uncached => cases uncached
  | missing =>
    rw [hget]
    exact ⟨rfl, rfl⟩
  | corrupt _ found =>
    rw [hget] at found
    cases found

end Unserved

/-! ## 2. Requests -/

namespace Session

variable {σ : Type} {w : World (StoreCall IndexCall) (StoreCall.Answer IndexCall.Answer) σ}
  {S : Session σ} {id : String} {e : Entry}

/-- What is found in the cache is no document if there is nothing but an entry of no use. -/
theorem not_served (useless : ∀ e, S.cache.find? id = some e → e.Spent S.now) {body : Bytes}
    (found : (S.cache.get S.now id).1 = some body) : Json.isDocument body = false := by
  rcases S.cache.get_cases S.now id with ⟨hget, -⟩ | ⟨e, hfind, alive, hget⟩ | ⟨e, -, -, hget⟩ <;>
    rw [hget] at found
  · cases found
  · cases found
    rcases useless e hfind with dead | corrupt
    · rw [alive] at dead
      cases dead
    · exact corrupt
  · cases found

/-- **Such a record is resolved afresh**, from where no time has passed. -/
theorem followed_afresh (caching : S.service.useCache = true)
    (useless : ∀ e, S.cache.find? id = some e → e.Spent S.now) :
    let drift : Nat → Duration := fun _ => .zero
    let anew := fresh S.service.settings true S.now id
    ∃ before n scene, Unserved true S.cache S.now id before scene.cache ∧
      S.Resumes drift before scene ∧ scene.now = S.now ∧
      S.followed w (some S.deadline) drift id = anew.drifting w (some S.deadline) drift n scene ∧
      S.deeds w drift id =
        .read S.now :: (before ++ anew.deeds w (some S.deadline) drift n scene) := by
  intro drift anew
  have still : S.now.advance .zero = S.now := rfl
  have hcases := S.followed_cases w drift id
  simp only [drift, still, caching] at hcases
  rcases hcases with
    ⟨body, -, -, -, -, found, document, -⟩ | ⟨before, n, scene, unserved, resumes, h⟩
  · rw [not_served useless found] at document
    cases document
  · exact ⟨before, n, scene, unserved, resumes, resumes.now fun _ => rfl, h⟩

/-- Of requests that end in the same way, on services that are alike, the same becomes, but for what
    was logged. -/
theorem conclude_congr {T : Session σ} (service : T.service = S.service)
    {out out' : Ending (Except Failure Resolution) × Scene σ} (hend : out.1 = out'.1)
    (hleft : out.2.silent = out'.2.silent) {warnings : List Event}
    (hlog : out.2.events = warnings ++ out'.2.events) :
    S.conclude id out =
      ((T.conclude id out').1, (T.conclude id out').2.1, warnings ++ (T.conclude id out').2.2) := by
  have hnow := congrArg Scene.now hleft
  have hworld := congrArg Scene.world hleft
  have hcache := congrArg Scene.cache hleft
  have hwatch := congrArg Scene.watch hleft
  simp only [Scene.silent] at hnow hworld hcache hwatch
  have hafter : S.afterwards out.2 = T.afterwards out'.2 := by
    unfold afterwards
    rw [service, hnow, hworld, hcache]
  unfold conclude
  rw [hend, hafter, hlog, hwatch, List.append_assoc]

/-- **An entry of no use changes nothing about how a request goes** that resolves the record, but
    for what is logged before. -/
theorem followed_spent (caching : S.service.useCache = true) (found : S.cache.find? id = some e)
    (spent : e.Spent S.now) :
    let T : Session σ := { S with cache := S.cache.delete id }
    let drift : Nat → Duration := fun _ => .zero
    let out := S.followed w (some S.deadline) drift id
    let clean := T.followed w (some T.deadline) drift id
    calls (S.deeds w drift id) = calls (T.deeds w drift id) ∧
    laps (S.deeds w drift id) = laps (T.deeds w drift id) ∧
    out.1 = clean.1 ∧ out.2.silent = clean.2.silent ∧
    out.2.events = e.warnings S.now id ++ clean.2.events ∧
    Effect S.service.settings true (some S.deadline) S.now id T.cache out.1 out.2 := by
  intro T drift out clean
  have absent : T.cache.find? id = none := by
    show (S.cache.delete id).find? id = none
    rw [Cache.find?_delete, if_pos rfl]
  obtain ⟨before, n, scene, unserved, resumes, now, hout, hds⟩ :=
    followed_afresh (w := w) caching fun e' he' => by
      cases found.symm.trans he'
      exact spent
  obtain ⟨before', n', scene', unserved', resumes', now', hout', hds'⟩ :=
    followed_afresh (w := w) (S := T) caching fun e' he' => by
      cases absent.symm.trans he'
  obtain ⟨hcache, hnotes⟩ := unserved.of_spent found
  obtain ⟨hcache', hnotes'⟩ := unserved'.of_none absent
  -- both resolve the record afresh, and differ in what was logged before
  let anew := fresh S.service.settings true S.now id
  have hout : out = anew.drifting w (some S.deadline) drift n scene := hout
  have hout' : clean = anew.drifting w (some S.deadline) drift n' scene' := hout'
  have hscene : scene = { scene' with events := scene.events } := by
    have hworld := resumes.world.trans resumes'.world.symm
    have hwatch := resumes.watch.trans resumes'.watch.symm
    cases scene
    cases scene'
    rw [Scene.mk.injEq]
    exact ⟨now.trans now'.symm, hworld, hcache.trans hcache'.symm, hwatch, rfl⟩
  have still : ∀ i, drift (n + i) = drift (n' + i) := fun _ => rfl
  obtain ⟨hdeeds, hend, hleft⟩ :=
    drifting_congr w (some S.deadline) still anew scene' scene.events
  rw [← hscene] at hdeeds hend hleft
  have hlog : (anew.drifting w (some S.deadline) drift n scene).2.events =
      e.warnings S.now id ++ (anew.drifting w (some S.deadline) drift n' scene').2.events := by
    rw [(drifting_leaves w _ drift n anew scene).events,
      (drifting_leaves w _ drift n' anew scene').events, resumes.events, resumes'.events, hnotes,
      hnotes', hdeeds]
    rfl
  have heffect : Effect S.service.settings true (some S.deadline) S.now id scene.cache
      (anew.run w (some S.deadline) scene).1 (anew.run w (some S.deadline) scene).2 := fresh_effect
  rw [← drifting_zero w (some S.deadline) n, ← hout, hcache] at heffect
  rw [← hout, ← hout'] at hend hleft hlog
  refine ⟨?_, ?_, hend, hleft, hlog, heffect⟩
  · rw [hds, hds', unserved.calls, unserved'.calls]
    exact congrArg calls hdeeds
  · rw [hds, hds', unserved.laps, unserved'.laps]
    exact congrArg laps hdeeds

/-- An entry that is of use is served. -/
theorem followed_served (caching : S.service.useCache = true) (found : S.cache.find? id = some e)
    (useful : ¬ e.Spent S.now) :
    ∃ body, (S.followed w (some S.deadline) (fun _ => .zero) id).1 =
      .finished (.ok (.cached body)) := by
  unfold Entry.Spent at useful
  simp only [not_or, Bool.not_eq_false] at useful
  have hget := Cache.get_of_alive found useful.1
  rcases S.followed_cases w (fun _ => .zero) id with
    ⟨_, _, _, _, -, -, -, hend, -⟩ | ⟨_, _, _, unserved, -⟩
  · exact ⟨_, hend⟩
  · exact absurd useful.2 (unserved.not_document caching (congrArg Prod.fst hget))

theorem resolve_direct : S.resolve (.direct w) id =
    S.conclude id (S.followed w (some S.deadline) (fun _ => .zero) id) := by
  rw [← Executor.drifting_zero]
  rfl

/-- **A request does not differ by an entry of no use** from one that finds nothing: it makes the
    same calls, reaches the same checkpoints, becomes the same and leaves the same service behind,
    but for an event where it removes a text that is no document. If there is an entry afterwards,
    it is of the response that is answered. So no entry makes a request fail: what is of use is
    served. -/
theorem resolve_spent (w : World (StoreCall IndexCall) (StoreCall.Answer IndexCall.Answer) σ)
    (caching : S.service.useCache = true) (found : S.cache.find? id = some e) :
    let T : Session σ := { S with cache := S.cache.delete id }
    let drift : Nat → Duration := fun _ => .zero
    let out := S.resolve (.direct w) id
    let clean := T.resolve (.direct w) id
    (e.Spent S.now →
      calls (S.deeds w drift id) = calls (T.deeds w drift id) ∧
      laps (S.deeds w drift id) = laps (T.deeds w drift id) ∧
      out = (clean.1, clean.2.1, e.warnings S.now id ++ clean.2.2) ∧
      ∀ e', out.2.1.cache.find? id = some e' → ∃ r, out.1 = .answered (.ok (.resolved r)) ∧
        r.extra.cached = true ∧ e'.value = r.write) ∧
    (out.1 = clean.1 ∨ ∃ body, out.1 = .answered (.ok (.cached body))) := by
  intro T drift out clean
  have hout : out = S.conclude id (S.followed w (some S.deadline) drift id) := resolve_direct
  have hclean : clean = T.conclude id (T.followed w (some T.deadline) drift id) := resolve_direct
  rw [hout, hclean]
  refine ⟨fun spent => ?_, ?_⟩
  · obtain ⟨hcalls, hlaps, hend, hleft, hlog, heffect⟩ :=
      followed_spent (w := w) caching found spent
    refine ⟨hcalls, hlaps, conclude_congr rfl hend hleft hlog, fun e' he' => ?_⟩
    have he' : (S.followed w (some S.deadline) drift id).2.cache.find? id = some e' := he'
    rcases heffect.cache_cases with hsame | ⟨r, expires, hanswer, marked, -, hstored⟩
    · rw [hsame, Cache.find?_delete, if_pos rfl] at he'
      cases he'
    · rw [hstored, Cache.find?_put, if_pos rfl] at he'
      cases he'
      exact ⟨r, congrArg verdict hanswer, marked, rfl⟩
  · by_cases spent : e.Spent S.now
    · obtain ⟨-, -, hend, -⟩ := followed_spent (w := w) caching found spent
      exact .inl (congrArg verdict hend)
    · obtain ⟨body, hbody⟩ := followed_served (w := w) caching found spent
      exact .inr ⟨body, congrArg verdict hbody⟩

/-- A record under which an empty text is kept. Its request is cut off, and the text is gone. -/
theorem resolve_spent_blank :
    let w := knowing (.ofSecs 1) ⟨["b"], []⟩ [⟨"2", "b"⟩]
    let e : Entry := ⟨[], ⟨10⟩⟩
    let S : Session Unit :=
      ⟨⟨⟨.ofMillis 500, true, .zero, .ofSecs 60⟩, true, ⟨true, true⟩⟩, ⟨5⟩, (), .put .empty "r" e⟩
    S.cache.find? "r" = some e ∧ e.Spent S.now ∧
      (S.resolve (.direct w) "r").1 = .answered (.error .canceled) ∧
      (S.resolve (.direct w) "r").2.1.cache.find? "r" = none := by
  intro w e S
  have caching : S.service.useCache = true := rfl
  have found : S.cache.find? "r" = some e := rfl
  have spent : e.Spent S.now := .inr Json.isDocument_nil
  have hcut : (resolved w { S with cache := S.cache.delete "r" } "r").1 = .cutOff := by
    decide +kernel
  clear_value S
  obtain ⟨-, -, hout, hgone⟩ := (Session.resolve_spent w caching found).1 spent
  have hcanceled : (S.resolve (.direct w) "r").1 = .answered (.error .canceled) := by
    rw [hout, resolve_verdict, hcut]
    rfl
  refine ⟨found, spent, hcanceled, ?_⟩
  cases hleft : (S.resolve (.direct w) "r").2.1.cache.find? "r" with
  | none => rfl
  | some e' =>
    obtain ⟨r, hr, -⟩ := hgone e' hleft
    cases hcanceled.symm.trans hr

end Session

end CitationFusion
