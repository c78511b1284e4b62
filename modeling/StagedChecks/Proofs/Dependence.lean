import StagedChecks.Functions
import StagedChecks.Proofs.Evaluation
import StagedChecks.Proofs.Resolution

/-!
# What a rule depends on

A rule sees what its references name and nothing else. The roots `self`, `count` and `each` are
reserved: they stand for the instance of the block and the data of its repetition, and never for a
named value. Every other root stands for named values only.

## Main definitions

* `Text.root` — the first segment of a text.
* `Reference.isReserved` — the roots that stand for no named value.
* `Bindings.AgreeOn` — bindings and blocks that agree on what some references name.

## Main statements

* `Reference.subject_of_parse` — the subjects under each root.
* `Bindings.AgreeOn.resolve` — what references name decides how they are resolved.
* `Rule.evaluate_of_references` — and how a rule is evaluated.
-/

namespace StagedChecks

namespace Text

/-- The first segment of a text. -/
def root (text : String) : String :=
  (segments text).1

theorem root_joined {first : String} (whole : '.' ∉ first.toList) (others : List String) :
    root (joined first others) = first := by
  cases others with
  | nil => simp [root, segments, splitDots_of_not_mem whole]
  | cons next others =>
    simp [root, segments, splitDots_of_dot whole]

end Text

namespace Reference

/-- Whether a root stands for the block or its repetition, and so for no named value. -/
def isReserved (root : String) : Bool :=
  root == "self" || root == "count" || root == "each"

/-- A subject is the root, and after that the names that the root asks for. -/
theorem subject_of_ofSegments {root : String} {others : List String} {r : Reference}
    (made : ofSegments root others = .ok r) :
    ∃ names, r.subject = Text.joined root names ∧ (root = "self" → names = []) ∧
      (root = "count" → names = ["index"]) ∧
      (root = "each" → names = ["key"] ∨ names = ["value"]) := by
  rcases ofSegments_eq_ok_iff.1 made with ⟨rfl, rfl⟩ | ⟨rfl, type, name, path, -, rfl⟩ |
    ⟨self, data, name, path, -, rfl, allowed⟩
  · exact ⟨[], rfl, by decide⟩
  · exact ⟨[type, name], rfl, by simp⟩
  · refine ⟨[name], rfl, fun isSelf => absurd isSelf self, ?_, ?_⟩ <;> rintro rfl
    · simpa using allowed _ rfl
    · simpa using allowed _ rfl

/-- A subject is one of the four that stand for data of the block, or its root is not reserved. -/
theorem subject_of_parse {t : String} {r : Reference} (read : parse t = .ok r) :
    r.subject = "self" ∨ r.subject = "count.index" ∨ r.subject = "each.key" ∨
      r.subject = "each.value" ∨ isReserved (Text.root r.subject) = false := by
  obtain ⟨name, -, made⟩ := parse_eq_ok_iff.1 read
  have whole := not_mem_of_isAttribute (s := (Text.segments t).1) (by simp [isAttribute, name])
  obtain ⟨names, subject, self, count, each⟩ := subject_of_ofSegments made
  rw [subject, Text.root_joined whole]
  generalize (Text.segments t).1 = root at *
  by_cases isSelf : root = "self"
  · exact .inl (by rw [self isSelf, isSelf]; rfl)
  by_cases isCount : root = "count"
  · exact .inr (.inl (by rw [count isCount, isCount]; rfl))
  by_cases isEach : root = "each"
  · rcases each isEach with key | value
    · exact .inr (.inr (.inl (by rw [key, isEach]; rfl)))
    · exact .inr (.inr (.inr (.inl (by rw [value, isEach]; rfl))))
  · simp [isReserved, isSelf, isCount, isEach]

end Reference

namespace Bindings

/-- Whether two bindings, each with a block, agree on what some references name: the named values
under roots that are not reserved, and what the reserved roots among them stand for. -/
structure AgreeOn (references : List Reference) (b b' : Bindings)
    (selfRef selfRef' : Option String) (repetition repetition' : Repetition) : Prop where
  values : ∀ r ∈ references, Reference.isReserved (Text.root r.subject) = false →
    b.value? r.subject = b'.value? r.subject
  self : (∃ r ∈ references, Text.root r.subject = "self") →
    selfRef.bind b.instance? = selfRef'.bind b'.instance?
  count : (∃ r ∈ references, Text.root r.subject = "count") →
    repetition.countIndex = repetition'.countIndex
  each : (∃ r ∈ references, Text.root r.subject = "each") →
    repetition.eachKey = repetition'.eachKey ∧ repetition.eachValue = repetition'.eachValue

variable {references : List Reference} {b b' : Bindings} {selfRef selfRef' : Option String}
  {repetition repetition' : Repetition} {r : Reference} {t : String}

/-- No reserved reference falls through to the named values, and no other one is taken for a
reserved one. -/
theorem AgreeOn.subject (agree : AgreeOn references b b' selfRef selfRef' repetition repetition')
    (member : r ∈ references) (read : Reference.parse t = .ok r) :
    b.subject selfRef repetition r.subject = b'.subject selfRef' repetition' r.subject := by
  have rooted {root : String} (here : Text.root r.subject = root) :
      ∃ r ∈ references, Text.root r.subject = root := ⟨r, member, here⟩
  rcases Reference.subject_of_parse read with self | count | key | value | free
  · simp [Bindings.subject, self, agree.self (rooted (by rw [self]; rfl))]
  · simp [Bindings.subject, count, Repetition.hasCount, agree.count (rooted (by rw [count]; rfl))]
  · simp [Bindings.subject, key, Repetition.hasEach, agree.each (rooted (by rw [key]; rfl))]
  · simp [Bindings.subject, value, Repetition.hasEach, agree.each (rooted (by rw [value]; rfl))]
  · have other {name : String} (reserved : Reference.isReserved (Text.root name) = true) :
        r.subject ≠ name := by
      intro same
      simp [same, reserved] at free
    have self : r.subject ≠ "self" := other rfl
    have count : r.subject ≠ "count.index" := other rfl
    have key : r.subject ≠ "each.key" := other rfl
    have value : r.subject ≠ "each.value" := other rfl
    simp [Bindings.subject, self, count, key, value, agree.values r member free]

theorem AgreeOn.resolve (agree : AgreeOn references b b' selfRef selfRef' repetition repetition')
    (member : r ∈ references) (read : Reference.parse t = .ok r) :
    b.resolve selfRef repetition r = b'.resolve selfRef' repetition' r := by
  unfold Bindings.resolve
  rw [agree.subject member read]

end Bindings

namespace Rule

variable {kind : Kind} {rule : Rule} {b b' : Bindings} {selfRef selfRef' : Option String}
  {repetition repetition' : Option Repetition} {sink : Option Sink} {settings : Option Settings}

theorem evaluate_of_agreeOn
    (agree : ∀ references first, rule.condition.references = .ok (references, first) →
      Bindings.AgreeOn references b b' selfRef selfRef' (repetition.getD {})
        (repetition'.getD {})) :
    rule.evaluate kind b.toContext selfRef repetition sink settings =
      rule.evaluate kind b'.toContext selfRef' repetition' sink settings := by
  refine evaluate_congr fun ts named => Bindings.scope_congr fun r member => ?_
  obtain ⟨t, -, read⟩ := Reference.mem_analyse_iff.1 member
  exact (agree _ _ (map_eq_ok_iff.2 ⟨ts, named, rfl⟩)).resolve member read

/-- A rule sees only what it references: bindings and blocks that agree on its references are the
same to it. So named values under reserved roots never count, instances count only for references
to `self`, and the data of the repetition only for those to `count` and `each`. -/
theorem evaluate_of_references (kind : Kind) (rule : Rule) (sink : Option Sink)
    (settings : Option Settings) :
    (∀ (b b' : Bindings) selfRef selfRef' repetition repetition',
      (∀ references first, rule.condition.references = .ok (references, first) →
        Bindings.AgreeOn references b b' selfRef selfRef' (repetition.getD {})
          (repetition'.getD {})) →
        rule.evaluate kind b.toContext selfRef repetition sink settings =
          rule.evaluate kind b'.toContext selfRef' repetition' sink settings) ∧
    (∀ (b b' : Bindings) selfRef repetition, b.instances = b'.instances →
      (∀ name, Reference.isReserved (Text.root name) = false → b.value? name = b'.value? name) →
        rule.evaluate kind b.toContext selfRef repetition sink settings =
          rule.evaluate kind b'.toContext selfRef repetition sink settings) ∧
    ((∀ references first, rule.condition.references = .ok (references, first) →
        ∀ r ∈ references, Text.root r.subject ≠ "self") →
      ∀ values instances instances' selfRef selfRef' repetition,
        rule.evaluate kind (Bindings.toContext ⟨values, instances⟩) selfRef repetition sink
            settings =
          rule.evaluate kind (Bindings.toContext ⟨values, instances'⟩) selfRef' repetition
            sink settings) ∧
    ((∀ references first, rule.condition.references = .ok (references, first) →
        ∀ r ∈ references, Text.root r.subject ≠ "count" ∧ Text.root r.subject ≠ "each") →
      ∀ (b : Bindings) selfRef repetition repetition',
        rule.evaluate kind b.toContext selfRef repetition sink settings =
          rule.evaluate kind b.toContext selfRef repetition' sink settings) := by
  refine ⟨fun _ _ _ _ _ _ => evaluate_of_agreeOn, ?_, ?_, ?_⟩
  · intro b b' selfRef repetition instances values
    have same : b.instance? = b'.instance? := by
      funext name
      rw [Bindings.instance?, Bindings.instance?, instances]
    exact evaluate_of_agreeOn fun _ _ _ => ⟨fun r _ => values r.subject, fun _ => by rw [same],
      fun _ => rfl, fun _ => ⟨rfl, rfl⟩⟩
  · intro others values instances instances' selfRef selfRef' repetition
    refine evaluate_of_agreeOn fun references first analysed =>
      ⟨fun _ _ _ => rfl, ?_, fun _ => rfl, fun _ => ⟨rfl, rfl⟩⟩
    rintro ⟨r, member, self⟩
    exact absurd self (others references first analysed r member)
  · intro others b selfRef repetition repetition'
    refine evaluate_of_agreeOn fun references first analysed =>
      ⟨fun _ _ _ => rfl, fun _ => rfl, ?_, ?_⟩
    · rintro ⟨r, member, count⟩
      exact absurd count (others references first analysed r member).1
    · rintro ⟨r, member, each⟩
      exact absurd each (others references first analysed r member).2

/-- For a rule about `var.ok` and `self.id`, another instance of the same content, values under
reserved names and the data of a repetition change nothing; for one about `var.ok`, nor do the
instances. -/
theorem evaluate_of_references_shadowed :
    let rule : Rule := ⟨.call (Functions.echo 0) ["var.ok", "self.id"] "echo" {}, "off", none⟩
    let simple : Rule := ⟨.reference "var.ok" {}, "off", none⟩
    let web : Table Value := [("web[0]", .wrap (.object [("id", .str "i-1")]))]
    let db : Table Value := [("db", .wrap (.object [("id", .str "i-1")]))]
    let values : Table Value := [("var.ok", .wrap (.bool false))]
    let shadowed : Table Value := [("self", .wrap (.int 1)), ("count.index", .wrap (.int 2)),
      ("var.ok", .wrap (.bool false)), ("var.other", .unknown)]
    let third : Repetition := { countIndex := .int 2 }
    let heard : Option Sink := some (.listener {})
    let run (rule : Rule) (b : Bindings) (selfRef : Option String)
        (repetition : Option Repetition) :=
      rule.evaluate .resourcePrecondition b.toContext selfRef repetition heard none
    rule.condition.references = .ok ([⟨"var.ok", []⟩, ⟨"self", ["id"]⟩], []) ∧
      Bindings.AgreeOn [⟨"var.ok", []⟩, ⟨"self", ["id"]⟩] ⟨values, web⟩ ⟨shadowed, db⟩
        (some "web[0]") (some "db") {} third ∧
      run rule ⟨shadowed, db⟩ (some "db") (some third) =
        run rule ⟨values, web⟩ (some "web[0]") none ∧
      run rule ⟨("each.key", .null) :: values, web⟩ (some "web[0]") none =
        run rule ⟨values, web⟩ (some "web[0]") none ∧
      run simple ⟨values, db⟩ none none = run simple ⟨values, web⟩ (some "web[0]") none ∧
      run simple ⟨values, web⟩ none (some third) = run simple ⟨values, web⟩ none none ∧
      (run rule ⟨values, web⟩ (some "web[0]") none).result.toOption.map (·.verdict) =
        some .failed := by
  intro rule simple web db values shadowed third heard run
  have analysed : rule.condition.references =
      .ok ([⟨"var.ok", []⟩, ⟨"self", ["id"]⟩], []) := rfl
  have single : simple.condition.references = .ok ([⟨"var.ok", []⟩], []) := rfl
  have agree : Bindings.AgreeOn [⟨"var.ok", []⟩, ⟨"self", ["id"]⟩] ⟨values, web⟩ ⟨shadowed, db⟩
      (some "web[0]") (some "db") {} third := by
    refine ⟨?_, fun _ => rfl, ?_, fun _ => ⟨rfl, rfl⟩⟩
    · simp only [List.mem_cons, List.not_mem_nil, or_false, forall_eq_or_imp, forall_eq]
      exact ⟨fun _ => rfl, fun free => by cases free⟩
    · rintro ⟨r, member, count⟩
      simp only [List.mem_cons, List.not_mem_nil, or_false] at member
      rcases member with rfl | rfl <;> exact absurd count (by decide)
  have other {name : String} (free : Reference.isReserved (Text.root name) = false) :
      "each.key" ≠ name := by
    rintro rfl
    cases free
  obtain ⟨agreeing, reserved, -, -⟩ :=
    evaluate_of_references .resourcePrecondition rule heard none
  obtain ⟨-, -, instances, repetitions⟩ :=
    evaluate_of_references .resourcePrecondition simple heard none
  refine ⟨analysed, agree, (agreeing _ _ _ _ none (some third) ?_).symm, ?_, ?_, ?_,
    by decide +kernel⟩
  · intro references first found
    cases analysed.symm.trans found
    exact agree
  · refine reserved _ _ _ _ rfl fun name free => ?_
    simp [Bindings.value?, other free]
  · refine instances (fun references first found => ?_) _ _ _ _ _ _
    cases single.symm.trans found
    simp
    decide
  · refine repetitions (fun references first found => ?_) _ _ _ _
    cases single.symm.trans found
    simp
    decide

end Rule

end StagedChecks
