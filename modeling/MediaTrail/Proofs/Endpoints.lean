/-
**The endpoints of accepted choices.** The rules for the choices of a host keep the two endpoints apart.
They do not keep an endpoint out of the classes that are tried before its own: an ignored beginning may
cover it, and its path may be that of a media file. These two are all that can come before it. An
endpoint that neither of them takes is watched, and what is asked of it in the query plays no part.

* `Settings.problems_eq_nil_iff`: what the choices are like that break no rule;
* `Classifier.classify_append_query`: a query plays no part in the class of a path;
* `Classifier.classifyPath_endpoint`: the class of an endpoint, when the two differ;
* `Settings.classify_endpoint`: the class of an endpoint of accepted choices, with any query.
-/

import MediaTrail.Classifier
import MediaTrail.Proofs.TextParts

namespace MediaTrail

/-! ### Accepted choices -/

/-- The path at which an endpoint is asked. -/
def Settings.pathOf (settings : Settings) : Endpoint → String
  | .list => settings.listEndpoint
  | .get => settings.getEndpoint

/-- **Choices that break no rule.** -/
structure Settings.IsSound (settings : Settings) : Prop where
  rooted : ∀ endpoint, isRooted (settings.pathOf endpoint) = true
  distinct : settings.listEndpoint ≠ settings.getEndpoint
  prefixes : ∀ start ∈ settings.ignoredPrefixes, start ≠ ""
  apiPaths : ∀ path ∈ settings.apiPaths, isRooted path = true
  bodyLimit : 0 < settings.bodyLimit

theorem problemIf_eq_nil_iff {broken : Bool} {problem : Problem} :
    problemIf broken problem = [] ↔ broken = false := by
  cases broken <;> simp [problemIf]

/-- Nothing is reported of choices exactly if they break no rule. -/
theorem Settings.problems_eq_nil_iff (settings : Settings) :
    settings.problems = [] ↔ settings.IsSound := by
  simp only [Settings.problems, List.append_eq_nil_iff, problemIf_eq_nil_iff, Bool.not_eq_false',
    beq_eq_false_iff_ne, List.any_eq_false, Bool.not_eq_true', String.isEmpty_iff]
  constructor
  · rintro ⟨⟨⟨⟨⟨listRooted, getRooted⟩, distinct⟩, prefixes⟩, apiPaths⟩, bodyLimit⟩
    exact {
      rooted := fun endpoint => by cases endpoint <;> assumption
      distinct := distinct
      prefixes := prefixes
      apiPaths := fun path member => by simpa using apiPaths path member
      bodyLimit := Nat.pos_of_ne_zero bodyLimit }
  · intro sound
    refine ⟨⟨⟨⟨⟨sound.rooted .list, sound.rooted .get⟩, sound.distinct⟩, sound.prefixes⟩,
      fun path member => ?_⟩, Nat.ne_of_gt sound.bodyLimit⟩
    simpa using sound.apiPaths path member

/-! ### Queries -/

theorem withoutQuery_eq_iff {text path : String} :
    withoutQuery text = path ↔ IsUpTo '?' text.toList path.toList := by
  rw [← takeWhile_eq_iff, withoutQuery, ← String.toList_inj, String.toList_ofList]

/-- A path without a mark has no query. -/
theorem withoutQuery_of_plain {path : String} (plain : '?' ∉ path.toList) :
    withoutQuery path = path :=
  withoutQuery_eq_iff.mpr ⟨plain, .inl rfl⟩

/-- A query behind a path changes nothing of what is left without its query. -/
theorem withoutQuery_append (path query : String) :
    withoutQuery (path ++ "?" ++ query) = withoutQuery path := by
  have parts : (path ++ "?" ++ query).toList = path.toList ++ '?' :: query.toList := by simp
  rw [withoutQuery_eq_iff, parts]
  exact (withoutQuery_eq_iff.mp rfl).append_mark query.toList

theorem Classifier.classify_append_query (classifier : Classifier) (path query : String) :
    classifier.classify (path ++ "?" ++ query) = classifier.classify path := by
  rw [classify, classify, withoutQuery_append]

/-! ### The class of an endpoint -/

/-- The class of the requests for an endpoint. -/
def Endpoint.category : Endpoint → Category
  | .list => .listQuery
  | .get => .getQuery

@[simp] theorem Endpoint.category_ne_ignored (endpoint : Endpoint) : endpoint.category ≠ .ignored := by
  cases endpoint <;> decide

@[simp] theorem Endpoint.category_ne_directMedia (endpoint : Endpoint) :
    endpoint.category ≠ .directMedia := by
  cases endpoint <;> decide

@[simp] theorem Endpoint.needsCapture_category (endpoint : Endpoint) :
    endpoint.category.needsCapture = true := by
  cases endpoint <;> rfl

theorem Classifier.isIgnored_iff (classifier : Classifier) (path : String) :
    classifier.isIgnored path = true ↔
      ∃ start ∈ classifier.ignoredPrefixes, start.toList <+: path.toList := by
  simp only [Classifier.isIgnored, List.any_eq_true, List.isPrefixOf_iff_prefix]

/-- Only the two classes in front of its own can take the path of an endpoint, if the endpoints differ. -/
theorem Classifier.classifyPath_endpoint {settings : Settings}
    (distinct : settings.listEndpoint ≠ settings.getEndpoint) (endpoint : Endpoint) :
    (ofSettings settings).classifyPath (settings.pathOf endpoint) =
      if (ofSettings settings).isIgnored (settings.pathOf endpoint) then .ignored
      else if (ofSettings settings).extensions.isMedia (settings.pathOf endpoint) then .directMedia
      else endpoint.category := by
  cases endpoint with
  | list =>
    have own : settings.pathOf .list = (ofSettings settings).listEndpoint := rfl
    rw [Classifier.classifyPath, if_pos own]
    rfl
  | get =>
    have other : settings.pathOf .get ≠ (ofSettings settings).listEndpoint := distinct.symm
    have own : settings.pathOf .get = (ofSettings settings).getEndpoint := rfl
    rw [Classifier.classifyPath, if_neg other, if_pos own]
    rfl

/-- **An endpoint is watched unless a class in front of its own takes it.** Where no rule is broken, the
query of a request for an endpoint plays no part in its class. If there is no mark of a query in the path
of the endpoint, the request is ignored exactly if an ignored beginning covers this path. Otherwise it is
for a media file exactly if the path ends in an extension of one, and else it is of the class of its
endpoint. In this last case, and in no other, its bodies are captured. -/
theorem Settings.classify_endpoint (settings : Settings) (accepted : settings.problems = [])
    (endpoint : Endpoint) (query : String) :
    let classifier := Classifier.ofSettings settings
    let path := settings.pathOf endpoint
    let covered := ∃ start ∈ settings.ignoredPrefixes, start.toList <+: path.toList
    let isMedia := (Extensions.ofList settings.extensions).isMedia path = true
    classifier.classify (path ++ "?" ++ query) = classifier.classify path ∧
      ('?' ∉ path.toList →
        (classifier.classify path = .ignored ↔ covered) ∧
        (classifier.classify path = .directMedia ↔ ¬covered ∧ isMedia) ∧
        (classifier.classify path = endpoint.category ↔ ¬covered ∧ ¬isMedia) ∧
        ((classifier.classify path).needsCapture = true ↔ ¬covered ∧ ¬isMedia)) := by
  intro classifier path covered isMedia
  refine ⟨classifier.classify_append_query path query, fun plain => ?_⟩
  have distinct := (settings.problems_eq_nil_iff.mp accepted).distinct
  have bare : classifier.classify path = classifier.classifyPath path := by
    rw [Classifier.classify, withoutQuery_of_plain plain]
  have ignored : classifier.isIgnored path = true ↔ covered := classifier.isIgnored_iff path
  have own := bare.trans (Classifier.classifyPath_endpoint distinct endpoint)
  by_cases isCovered : covered
  · rw [own.trans (if_pos (ignored.mpr isCovered))]
    simp [isCovered, endpoint.category_ne_ignored.symm, Category.needsCapture]
  · have own := own.trans (if_neg (mt ignored.mp isCovered))
    by_cases media : isMedia
    · rw [own.trans (if_pos media)]
      simp [isCovered, media, endpoint.category_ne_directMedia.symm, Category.needsCapture]
    · rw [own.trans (if_neg media)]
      simp [isCovered, media]

/-- Choices that break no rule, of whose endpoints one is covered and the other is watched. -/
theorem Settings.classify_endpoint_of_covered_list :
    let settings : Settings := { ignoredPrefixes := ["/api/fs/l"], extensions := ["mp4"] }
    let classifier := Classifier.ofSettings settings
    settings.problems = [] ∧ classifier.classify "/api/fs/list" = .ignored ∧
      classifier.classify "/api/fs/get" = .getQuery ∧
      classifier.classify ("/api/fs/get" ++ "?" ++ "path=/a.mp4") = .getQuery := by
  intro settings classifier
  have accepted : settings.problems = [] := by decide
  obtain ⟨-, list⟩ := settings.classify_endpoint accepted .list ""
  obtain ⟨asked, get⟩ := settings.classify_endpoint accepted .get "path=/a.mp4"
  have isIgnored : classifier.classify "/api/fs/list" = .ignored :=
    (list (by decide)).1.mpr (by decide)
  have isGet : classifier.classify "/api/fs/get" = .getQuery :=
    (get (by decide)).2.2.1.mpr (by decide)
  exact ⟨accepted, isIgnored, isGet, asked.trans isGet⟩

/-- **Accepted choices can hide their own endpoints.** An ignored beginning covers both of them, a media
file's extension stands at the end of one, or a mark of a query stands inside one: no rule is broken, and
none of these endpoints is watched. -/
theorem Settings.endpoint_unwatched :
    let covering : Settings := { ignoredPrefixes := ["/api/"] }
    let media : Settings := { listEndpoint := "/api/list.ts" }
    let marked : Settings := { getEndpoint := "/api/get?v=2" }
    (covering.problems = [] ∧ media.problems = [] ∧ marked.problems = []) ∧
      (∀ endpoint, (Classifier.ofSettings covering).classify (covering.pathOf endpoint) = .ignored) ∧
      (Classifier.ofSettings media).classify (media.pathOf .list) = .directMedia ∧
      (Classifier.ofSettings marked).classify (marked.pathOf .get) = .other ∧
      ¬∀ settings : Settings, settings.problems = [] → ∀ endpoint query,
        (Classifier.ofSettings settings).classify (settings.pathOf endpoint) = endpoint.category ∧
        (Classifier.ofSettings settings).classify (settings.pathOf endpoint ++ "?" ++ query) =
          endpoint.category := by
  intro covering media marked
  have accepted : covering.problems = [] := by decide
  have hidden : ∀ endpoint,
      (Classifier.ofSettings covering).classify (covering.pathOf endpoint) = .ignored := by
    intro endpoint
    cases endpoint <;> decide
  refine ⟨⟨accepted, by decide, by decide⟩, hidden, by decide, by decide, fun watched => ?_⟩
  have own := (watched covering accepted .list "").1
  rw [hidden] at own
  cases own

end MediaTrail
