import Stagehand.Proofs.Config.Members

/-! # Loading a configuration

A file with a JSON text of a configuration loads as that configuration, however the text is laid out,
whatever its strings say, and whichever defaults it leaves out.  It can be used exactly if it meets a
few conditions; if not, all that it does not meet are reported, each once and in their order.
-/

set_option autoImplicit false

namespace Stagehand.Config

open Yaml

/-- A condition on a configuration, and what is reported if it is not met. -/
structure Condition where
  holds : Bool
  error : ConfigError

/-- Something other than a space is in the text. -/
def isFilled (text : String) : Bool :=
  text.toList.any fun c => c ≠ ' '

/-- What a configuration has to meet. -/
def conditions (config : Config) : List Condition :=
  [⟨config.workingDirectory.text ≠ "", .missingField "working_dir"⟩,
   ⟨isFilled config.storage.endpoint, .missingField "storage.endpoint"⟩,
   ⟨isFilled config.storage.bucket, .missingField "storage.bucket"⟩,
   ⟨isFilled config.messaging.host, .missingField "messaging.host"⟩,
   ⟨isFilled config.messaging.exchange, .missingField "messaging.exchange"⟩,
   ⟨isFilled config.messaging.topic, .missingField "messaging.topic"⟩,
   ⟨isFilled config.runner.command, .missingField "runner.command"⟩,
   ⟨1 ≤ config.messaging.prefetch, .invalidField "messaging.prefetch" "must be at least 1"⟩]

def Usable (config : Config) : Prop :=
  ∀ condition ∈ config.conditions, condition.holds = true

/-- The reports of the conditions that are not met. -/
def violations (config : Config) : List ConfigError :=
  (config.conditions.filter fun condition => !condition.holds).map Condition.error

/-! ## All problems are reported -/

theorem isBlankChar_of_printable {c : Char} (printable : IsPrintable c) :
    Text.isBlankChar c = decide (c = ' ') := by
  obtain ⟨low, high⟩ := printable
  have space : c = ' ' ↔ c.toNat = 0x20 :=
    ⟨fun same => by rw [same]; rfl, fun same => Char.toNat_inj.mp same⟩
  rw [Bool.eq_iff_iff, decide_eq_true_iff, space]
  simp only [Text.isBlankChar, Text.inRanges, Text.blankRanges, List.any_cons, List.any_nil,
    Bool.or_eq_true, Bool.and_eq_true, decide_eq_true_eq, Bool.false_eq_true, or_false]
  omega

theorem isBlank_of_printable {text : String} (printable : AllPrintable text.toList) :
    Text.isBlank text = !isFilled text := by
  have each : ∀ c ∈ text.toList, (Text.isBlankChar c = true ↔ c = ' ') := fun c member => by
    simp [isBlankChar_of_printable (printable c member)]
  rw [Bool.eq_iff_iff]
  simpa [Text.isBlank, isFilled] using forall₂_congr each

theorem texts_of_requiredTexts {config : Config} {field : String × String}
    (required : field ∈ config.requiredTexts) : field.2 ∈ config.texts := by
  simp only [requiredTexts, List.mem_cons, List.not_mem_nil, or_false] at required
  rcases required with rfl | rfl | rfl | rfl | rfl | rfl <;> simp [texts]

theorem problems_eq_violations {config : Config} (printable : config.Printable) :
    config.problems = config.violations := by
  have shape : config.conditions =
      ⟨config.workingDirectory.text ≠ "", .missingField "working_dir"⟩ ::
        (config.requiredTexts.map fun field => ⟨isFilled field.2, .missingField field.1⟩) ++
        [⟨1 ≤ config.messaging.prefetch, .invalidField "messaging.prefetch" "must be at least 1"⟩] :=
    rfl
  have blank : config.requiredTexts.filter (fun field => Text.isBlank field.2) =
      config.requiredTexts.filter fun field => !isFilled field.2 :=
    List.filter_congr fun field required =>
      isBlank_of_printable (printable _ (texts_of_requiredTexts required))
  have least : (1 ≤ config.messaging.prefetch) ↔ config.messaging.prefetch ≠ 0 := by
    rw [UInt16.le_iff_toNat_le, ne_eq, ← UInt16.toNat_inj]
    exact Nat.pos_iff_ne_zero
  rw [problems, violations, shape, blank]
  by_cases named : config.workingDirectory.text = "" <;>
    by_cases none : config.messaging.prefetch = 0 <;>
      simp [named, none, least, List.filter_append, List.filter_map,
        Function.comp_def]

theorem violations_eq_nil_iff (config : Config) : config.violations = [] ↔ config.Usable := by
  simp [violations, Usable]

theorem validated_of_usable {config : Config} (printable : config.Printable) (usable : config.Usable) :
    config.validated = .ok config := by
  rw [validated, problems_eq_violations printable, (violations_eq_nil_iff config).mpr usable]

theorem validated_of_not_usable {config : Config} (printable : config.Printable)
    (unusable : ¬config.Usable) : config.validated = .error (.invalid config.violations) := by
  rw [validated, problems_eq_violations printable]
  split
  · rename_i none
    exact absurd ((violations_eq_nil_iff config).mp none) unusable
  · rfl

/-! ## Loading -/

/-- A file with a JSON text of a configuration loads as that configuration.  It passes the check exactly
if it is usable, and otherwise the reports of all conditions that it does not meet are returned. -/
theorem load_of_isText (wording : String → String) {config : Config} (printable : config.Printable)
    {text : String} (isText : config.IsText text) {tree : FileTree} {path : Path}
    (stored : tree.readFile path = .ok (Text.encode text)) :
    load wording tree path = .ok config ∧
      (loadValidated wording tree path = .ok config ↔ config.Usable) ∧
      (¬config.Usable → loadValidated wording tree path = .error (.invalid config.violations)) := by
  have loaded : load wording tree path = .ok config := by
    simp only [load, ofContent, stored, Text.decode?_encode, parse?_of_isText isText printable]
  have checked : loadValidated wording tree path = config.validated := by
    rw [loadValidated, loaded]
    rfl
  rw [checked]
  refine ⟨loaded, ⟨fun passed => ?_, validated_of_usable printable⟩,
    validated_of_not_usable printable⟩
  by_contra unusable
  rw [validated_of_not_usable printable unusable] at passed
  cases passed

/-- The sections come in another order here, a password has a quote and a backslash in it, and the
settings with defaults are left out but for the number, which has another value. -/
theorem load_of_unusable_text :
    let text := "\x7b\"messaging\": \x7b\"prefetch\": 0,\n  \"topic\": \"t\",\n  \"exchange\": \"e\"," ++
      "\n  \"password\": \"\\\"\\\\\",\n  \"username\": \"u\",\n  \"host\": \"  \"\x7d,\n  " ++
      "\"storage\": \x7b\"endpoint\": \"s3\",\n  \"username\": \"\",\n  \"password\": \"\",\n  " ++
      "\"bucket\": \"b\"\x7d,\n  \"working_dir\": \"data\"\x7d"
    let tree : FileTree := { nodes := [(["config.json"], .file (Text.encode text))] }
    let config : Config :=
      { workingDirectory := ⟨"data"⟩
        storage := { endpoint := "s3", username := "", password := "", bucket := "b" }
        messaging :=
          { host := "  ", username := "u", password := "\"\\", exchange := "e", topic := "t"
            prefetch := 0 } }
    let wording := fun _ => "not a configuration"
    load wording tree ⟨"config.json"⟩ = .ok config ∧
      loadValidated wording tree ⟨"config.json"⟩ = .error (.invalid
        [.missingField "messaging.host",
         .invalidField "messaging.prefetch" "must be at least 1"]) := by
  intro text tree config wording
  let storage : List (String × Datum) :=
    [("endpoint", .text "s3"), ("username", .text ""), ("password", .text ""), ("bucket", .text "b")]
  let messaging : List (String × Datum) :=
    [("host", .text "  "), ("username", .text "u"), ("password", .text "\"\\"),
     ("exchange", .text "e"), ("topic", .text "t"), ("prefetch", .word 0)]
  let layout : Piece → List Char
    | .comma => ['\n', ' ', ' ']
    | .name _ => [' ']
    | _ => []
  let whole : List (String × Datum) :=
    [("working_dir", .text "data"), ("storage", .object storage),
     ("messaging", .object messaging.reverse)]
  have stated : config.StatedBy (.object whole.reverse) := by
    refine .objects ⟨storage, ?_, .refl _⟩ ⟨messaging, ?_, List.reverse_perm _⟩
      ⟨[], ?_, .refl _⟩ ⟨whole, ?_, List.reverse_perm _⟩
    · exact .stated (.stated (.stated (.stated (.omitted rfl (.omitted rfl .nil)))))
    · exact .stated (.omitted rfl (.stated (.stated (.omitted rfl (.stated (.stated
        (.stated .nil)))))))
    · exact .omitted rfl (.omitted rfl .nil)
    · exact .stated (.omitted rfl (.stated (.stated (.omitted rfl .nil))))
  have isText : config.IsText text := by
    have indents : ∀ piece, ∀ c ∈ layout piece, IsLayout c := by
      intro piece
      cases piece <;> simp [layout, IsLayout]
    have printed : text = (Datum.object whole.reverse).printed layout := by decide +kernel
    exact ⟨_, stated, printed ▸ Datum.isText_printed indents (by decide +kernel)⟩
  have printable : config.Printable := by
    unfold Config.Printable
    decide +kernel
  have stored : tree.readFile ⟨"config.json"⟩ = .ok (Text.encode text) := by
    decide +kernel
  have told : config.violations =
      [.missingField "messaging.host", .invalidField "messaging.prefetch" "must be at least 1"] := by
    simp [config, violations, conditions, isFilled, Runner.default, Runner.defaultCommand]
  obtain ⟨loaded, -, refused⟩ := load_of_isText wording printable isText stored
  exact ⟨loaded, told ▸ refused (by unfold Usable; decide +kernel)⟩

end Stagehand.Config
