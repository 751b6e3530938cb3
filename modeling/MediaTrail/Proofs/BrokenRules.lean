/-
**Broken rules.** Choices may break any of six rules, in any combination. Each broken rule is reported
by a problem of its own, in the order of the rules, and a kept rule by none. A monitor can be set up
with choices as they are or as they are read back from their text. Both ways are open to the same
choices, and both refuse the others with the same problems.

* `Rule`, `Settings.Keeps`: what choices have to be like, one rule at a time;
* `Settings.problems_eq`: the problems are those of the broken rules, in order;
* `Rule.eq_of_message_eq`: the text of a problem tells which rule was broken;
* `Settings.ofJson_toJson`: choices read back from their text are refused for their problems alone;
* `Settings.reports_broken_rules`: what is reported, and that both ways agree.
-/

import Mathlib.Data.List.Nodup
import MediaTrail.Monitor
import MediaTrail.Proofs.Endpoints
import MediaTrail.Proofs.WrittenSettings

namespace MediaTrail

open Text.Utf8

/-! ### Rules -/

theorem isRooted_iff (path : String) : isRooted path = true ↔ ['/'] <+: path.toList := by
  rw [isRooted, beq_iff_eq]
  cases path.toList with
  | nil => simp
  | cons char rest => simp [List.cons_prefix_cons, eq_comm]

/-- What choices have to be like. -/
inductive Rule where
  /-- The path of an endpoint starts with a slash. -/
  | rootedEndpoint (endpoint : Endpoint)
  /-- The endpoints have different paths. -/
  | distinctEndpoints
  /-- No ignored beginning is empty. -/
  | nonemptyPrefixes
  /-- Every further interface path starts with a slash. -/
  | rootedApiPaths
  /-- At least one byte of a body can be reported. -/
  | positiveBodyLimit
deriving DecidableEq

namespace Rule

/-- The rules in the order in which broken ones are reported. -/
def inOrder : List Rule :=
  [rootedEndpoint .list, rootedEndpoint .get, distinctEndpoints, nonemptyPrefixes, rootedApiPaths,
    positiveBodyLimit]

theorem mem_inOrder (rule : Rule) : rule ∈ inOrder := by
  rcases rule with (_ | _) | _ | _ | _ | _ <;> decide

/-- How it is reported that choices break a rule. -/
def problemOf (rule : Rule) (settings : Settings) : Problem :=
  match rule with
  | rootedEndpoint endpoint => .endpointNotRooted endpoint (settings.pathOf endpoint)
  | distinctEndpoints => .endpointsEqual settings.listEndpoint
  | nonemptyPrefixes => .emptyIgnoredPrefix
  | rootedApiPaths => .apiPathNotRooted
  | positiveBodyLimit => .zeroBodyLimit

end Rule

namespace Settings

/-- What it means that choices keep a rule. -/
def Keeps (settings : Settings) : Rule → Prop
  | .rootedEndpoint endpoint => ['/'] <+: (settings.pathOf endpoint).toList
  | .distinctEndpoints => settings.listEndpoint ≠ settings.getEndpoint
  | .nonemptyPrefixes => "" ∉ settings.ignoredPrefixes
  | .rootedApiPaths => ∀ path ∈ settings.apiPaths, ['/'] <+: path.toList
  | .positiveBodyLimit => 0 < settings.bodyLimit

instance (settings : Settings) : DecidablePred settings.Keeps
  | .rootedEndpoint endpoint =>
    inferInstanceAs (Decidable (['/'] <+: (settings.pathOf endpoint).toList))
  | .distinctEndpoints => inferInstanceAs (Decidable (settings.listEndpoint ≠ settings.getEndpoint))
  | .nonemptyPrefixes => inferInstanceAs (Decidable ("" ∉ settings.ignoredPrefixes))
  | .rootedApiPaths => inferInstanceAs (Decidable (∀ path ∈ settings.apiPaths, ['/'] <+: path.toList))
  | .positiveBodyLimit => inferInstanceAs (Decidable (0 < settings.bodyLimit))

/-- The rules that choices break, in order. -/
def brokenRules (settings : Settings) : List Rule :=
  Rule.inOrder.filter fun rule => ¬settings.Keeps rule

theorem mem_brokenRules {settings : Settings} {rule : Rule} :
    rule ∈ settings.brokenRules ↔ ¬settings.Keeps rule := by
  simp [brokenRules, Rule.mem_inOrder]

theorem brokenRules_eq_nil_iff {settings : Settings} :
    settings.brokenRules = [] ↔ ∀ rule, settings.Keeps rule := by
  simp only [List.eq_nil_iff_forall_not_mem, mem_brokenRules, not_not]

/-! ### One problem each -/

/-- A problem for each broken rule, one rule after the other. -/
theorem flatMap_problemIf (settings : Settings) (rules : List Rule) :
    (rules.flatMap fun rule => problemIf (decide ¬settings.Keeps rule) (rule.problemOf settings)) =
      (rules.filter fun rule => ¬settings.Keeps rule).map (Rule.problemOf · settings) := by
  induction rules with
  | nil => rfl
  | cons rule rules ih =>
    rw [List.flatMap_cons, ih]
    by_cases keeps : settings.Keeps rule <;> simp [problemIf, keeps]

/-- **The problems are those of the broken rules, in their order.** -/
theorem problems_eq (settings : Settings) :
    settings.problems = settings.brokenRules.map (Rule.problemOf · settings) := by
  have rooted (endpoint : Endpoint) : (!isRooted (settings.pathOf endpoint)) =
      decide ¬settings.Keeps (.rootedEndpoint endpoint) := by
    simp [Keeps, ← isRooted_iff]
  have distinct : (settings.listEndpoint == settings.getEndpoint) =
      decide ¬settings.Keeps .distinctEndpoints := by
    simp [Keeps, beq_eq_decide]
  have nonempty : settings.ignoredPrefixes.any String.isEmpty =
      decide ¬settings.Keeps .nonemptyPrefixes := by
    simp [Keeps, List.any_eq]
  have apiPaths : (settings.apiPaths.any fun path => !isRooted path) =
      decide ¬settings.Keeps .rootedApiPaths := by
    simp [Keeps, ← isRooted_iff, List.any_eq]
  have limit : (settings.bodyLimit == 0) = decide ¬settings.Keeps .positiveBodyLimit := by
    simp [Keeps, beq_eq_decide]
  rw [brokenRules, ← flatMap_problemIf]
  simp only [Rule.inOrder, List.flatMap_cons, List.flatMap_nil, List.append_nil,
    ← rooted, ← distinct, ← nonempty, ← apiPaths, ← limit]
  simp only [← List.append_assoc]
  rfl

end Settings

/-! ### What a problem says -/

theorem isPrefix_append {opening text : String} (rest : String)
    (starts : opening.toList <+: text.toList) : opening.toList <+: (text ++ rest).toList := by
  rw [String.toList_append]
  exact starts.trans (List.prefix_append _ _)

namespace Rule

/-- How the text of a problem starts, as far as it takes to tell the rules apart. -/
def opening : Rule → String
  | rootedEndpoint .list => "list_endpoint 必"
  | rootedEndpoint .get => "get_endpoint 必须"
  | distinctEndpoints => "list_endpoint 与"
  | nonemptyPrefixes => "ignored_prefixe"
  | rootedApiPaths => "api_paths 中的路径必"
  | positiveBodyLimit => "debug_body_limi"

theorem opening_isPrefix (rule : Rule) (settings : Settings) :
    rule.opening.toList <+: (rule.problemOf settings).message.toList := by
  rcases rule with (_ | _) | _ | _ | _ | _
  · exact isPrefix_append _ (by decide)
  · exact isPrefix_append _ (by decide)
  · exact isPrefix_append _ (by decide)
  · show "ignored_prefixe".toList <+: "ignored_prefixes 不能包含空字符串".toList
    decide
  · show "api_paths 中的路径必".toList <+: "api_paths 中的路径必须以 '/' 开头".toList
    decide
  · show "debug_body_limi".toList <+: "debug_body_limit 必须大于 0".toList
    decide

theorem length_opening (rule : Rule) : rule.opening.toList.length = 15 := by
  rcases rule with (_ | _) | _ | _ | _ | _ <;> decide

/-- The text of a problem tells which rule was broken. -/
theorem eq_of_message_eq {rule other : Rule} {settings : Settings}
    (same : (rule.problemOf settings).message = (other.problemOf settings).message) :
    rule = other := by
  have first := rule.opening_isPrefix settings
  have second := other.opening_isPrefix settings
  rw [same, List.prefix_iff_eq_take, length_opening] at first
  rw [List.prefix_iff_eq_take, length_opening] at second
  have apart : (inOrder.map opening).Nodup := by decide
  exact List.inj_on_of_nodup_map apart rule.mem_inOrder other.mem_inOrder
    (String.toList_inj.mp (first.trans second.symm))

end Rule

namespace Settings

theorem nodup_messages (settings : Settings) : (settings.problems.map Problem.message).Nodup := by
  have once : settings.brokenRules.Nodup := List.Nodup.filter _ (by decide)
  rw [problems_eq, List.map_map]
  exact once.map fun rule other same => Rule.eq_of_message_eq same

theorem problemOf_mem_problems (settings : Settings) (rule : Rule) :
    rule.problemOf settings ∈ settings.problems ↔ ¬settings.Keeps rule := by
  rw [problems_eq, List.mem_map]
  constructor
  · rintro ⟨other, isBroken, same⟩
    obtain rfl := Rule.eq_of_message_eq (congrArg Problem.message same)
    exact mem_brokenRules.mp isBroken
  · intro broken
    exact ⟨rule, mem_brokenRules.mpr broken, rfl⟩

theorem problems_eq_nil_iff_keeps (settings : Settings) :
    settings.problems = [] ↔ ∀ rule, settings.Keeps rule := by
  rw [problems_eq, List.map_eq_nil_iff, brokenRules_eq_nil_iff]

/-! ### The two ways in -/

/-- Choices read back from their text are only looked through for problems. -/
theorem ofJson_toJson (settings : Settings) (fits : settings.bodyLimit < UInt64.size) :
    ∃ text, encode text = settings.toJson ∧ ofJson text = settings.checked := by
  obtain ⟨⟨text, encoded⟩, gives⟩ := settings.chosen_gives fits (List.Subperm.refl _)
  refine ⟨text, encoded, ?_⟩
  rw [ofJson, ofBytes, encoded, Json.whole_of_gives gives, onto_written]

/-- A monitor is refused for the problems of its settings and for nothing else. -/
theorem build_eq (settings : Settings) (sinks : Option (List Sink)) (identity : Identity) :
    (settings.problems = [] → ∃ built, Monitor.build settings sinks identity = .ok built) ∧
      (settings.problems ≠ [] →
        Monitor.build settings sinks identity = .error (.invalid settings.problems)) := by
  rw [Monitor.build, checked_eq]
  constructor
  · intro accepted
    rw [if_pos accepted]
    exact ⟨_, rfl⟩
  · intro broken
    rw [if_neg broken]
    rfl

/-- **Broken rules are reported one by one, and are all that shuts out choices.** There is exactly one
problem for each broken rule, in the order of the rules, none for a kept one, and no two problems read
alike. Choices that keep all rules make a monitor, and are read back from their text. Choices that
break one are refused on both ways, with the same problems. -/
theorem reports_broken_rules (settings : Settings) (fits : settings.bodyLimit < UInt64.size)
    (sinks : Option (List Sink)) (identity : Identity) :
    (settings.problems =
        (Rule.inOrder.filter fun rule => ¬settings.Keeps rule).map (Rule.problemOf · settings) ∧
      (settings.problems.map Problem.message).Nodup ∧
      ∀ rule : Rule, rule.problemOf settings ∈ settings.problems ↔ ¬settings.Keeps rule) ∧
    ∃ text, encode text = settings.toJson ∧
      let built := Monitor.build settings sinks identity
      let read := ofJson text
      ((∃ monitor, built = .ok monitor) ↔ ∃ kept, read = .ok kept) ∧
        ((∀ rule, settings.Keeps rule) → (∃ monitor, built = .ok monitor) ∧ read = .ok settings) ∧
        ((∃ rule, ¬settings.Keeps rule) → built = .error (.invalid settings.problems) ∧
          read = .error (.invalid settings.problems)) := by
  refine ⟨⟨settings.problems_eq, settings.nodup_messages, settings.problemOf_mem_problems⟩, ?_⟩
  obtain ⟨text, encoded, isRead⟩ := settings.ofJson_toJson fits
  obtain ⟨opens, shuts⟩ := settings.build_eq sinks identity
  refine ⟨text, encoded, ?_⟩
  intro built read
  have accepts (kept : settings.problems = []) : (∃ monitor, built = .ok monitor) ∧
      read = .ok settings :=
    ⟨opens kept, isRead.trans ((checked_eq settings).trans (if_pos kept))⟩
  have refuses (broken : settings.problems ≠ []) : built = .error (.invalid settings.problems) ∧
      read = .error (.invalid settings.problems) :=
    ⟨shuts broken, isRead.trans ((checked_eq settings).trans (if_neg broken))⟩
  refine ⟨?_, fun keeps => accepts (settings.problems_eq_nil_iff_keeps.mpr keeps), fun broken => ?_⟩
  · by_cases kept : settings.problems = []
    · exact iff_of_true (accepts kept).1 ⟨settings, (accepts kept).2⟩
    · obtain ⟨isBuilt, isRefused⟩ := refuses kept
      rw [isBuilt, isRefused]
      simp
  · obtain ⟨rule, breaks⟩ := broken
    exact refuses fun noProblem => breaks (settings.problems_eq_nil_iff_keeps.mp noProblem rule)

/-- Choices that break every rule, with a text that is written with escapes; and the usual ones. -/
theorem reports_every_rule :
    let settings : Settings :=
      { listEndpoint := "a\"\n", getEndpoint := "a\"\n", ignoredPrefixes := ["/x", ""],
        apiPaths := ["/me", "me"], bodyLimit := 0 }
    let usual : Settings := {}
    settings.bodyLimit < UInt64.size ∧
      settings.problems = [.endpointNotRooted .list "a\"\n", .endpointNotRooted .get "a\"\n",
        .endpointsEqual "a\"\n", .emptyIgnoredPrefix, .apiPathNotRooted, .zeroBodyLimit] ∧
      (∃ text, encode text = settings.toJson ∧
        Monitor.build settings none .principal = .error (.invalid settings.problems) ∧
        ofJson text = .error (.invalid settings.problems)) ∧
      (∃ monitor, Monitor.build usual none .principal = .ok monitor) ∧
      ∃ text, encode text = usual.toJson ∧ ofJson text = .ok usual := by
  intro settings usual
  have fits : settings.bodyLimit < UInt64.size := by decide
  obtain ⟨⟨problems, -, -⟩, text, encoded, -, -, refused⟩ :=
    settings.reports_broken_rules fits none .principal
  obtain ⟨-, usualText, usualEncoded, -, accepted, -⟩ :=
    usual.reports_broken_rules (by decide) none .principal
  have keeps : ∀ rule, usual.Keeps rule := usual.problems_eq_nil_iff_keeps.mp (by decide)
  exact ⟨fits, problems.trans (by decide), ⟨text, encoded, refused ⟨.positiveBodyLimit, by decide⟩⟩,
    (accepted keeps).1, usualText, usualEncoded, (accepted keeps).2⟩

end Settings

end MediaTrail
