import IicpDirectory.Admission
import IicpDirectory.Foundations.Addresses
import IicpDirectory.Foundations.Screening
import IicpDirectory.Operators

/-!
# The guard of the public mesh

Before the directory looks at its repository, an intent is screened by the
taxonomy of risks: by the name it has, not by what a task would ask for. Of the
rules the first that an intent meets classifies it. What is prohibited or of high
risk is refused at a registration, a discovery and the issue of a dispatch
ticket; what only asks for transparency, and what no rule knows, is let pass.

The refusing rules come before the others, so that an intent is refused just if
it has a fragment of one of them, in capitals or not, and nothing that is put
around it changes that (`refused_of_disguise`). The text of a refusal is made of
the rule alone, and no intent occurs in it (`refusal_inescapable`).
-/

namespace IntentPolicy

/-! ## The taxonomy -/

/-- The category of a rule. -/
inductive Category
  | prohibited
  | highRisk
  | transparencyRisk
  | minimalOrGeneral
  deriving DecidableEq

/-- As it is written. -/
def Category.text : Category → String
  | prohibited => "prohibited"
  | highRisk => "high_risk"
  | transparencyRisk => "transparency_risk"
  | minimalOrGeneral => "minimal_or_general"

/-- `Rule`. -/
structure Rule where
  category : Category
  ruleId : String
  label : String
  fragments : List String

/-- **`rules`**: those of `parity/intent-risk-taxonomy.json`, in its order. -/
def rules : List Rule :=
  [{ category := .prohibited
     ruleId := "eu-ai-act-social-scoring"
     label := "social scoring"
     fragments :=
       ["social-scoring", "social_scoring", "social:scoring"] },
   { category := .prohibited
     ruleId := "eu-ai-act-criminal-risk"
     label := "individual criminal risk prediction"
     fragments :=
       ["criminal-risk", "criminal_risk", "criminal:risk", "predict-crime"] },
   { category := .prohibited
     ruleId := "eu-ai-act-workplace-education-emotion"
     label := "workplace or education emotion recognition"
     fragments :=
       ["emotion:workplace", "emotion:education", "workplace-monitoring", "education-monitoring",
         "worker-monitoring"] },
   { category := .prohibited
     ruleId := "eu-ai-act-protected-trait-biometric"
     label := "biometric protected-trait classification"
     fragments :=
       ["protected-trait", "protected_trait", "biometric:protected"] },
   { category := .prohibited
     ruleId := "eu-ai-act-untargeted-face-scraping"
     label := "untargeted facial image scraping for recognition databases"
     fragments :=
       ["untargeted-scraping", "untargeted_scraping", "face-scraping", "facial-scraping"] },
   { category := .prohibited
     ruleId := "eu-ai-act-realtime-remote-biometric-id"
     label := "real-time remote biometric identification"
     fragments :=
       ["remote-biometric:realtime", "realtime-remote-biometric", "real-time-remote-biometric"] },
   { category := .prohibited
     ruleId := "eu-ai-act-nonconsensual-sexual-deepfake"
     label := "non-consensual sexual deepfake or CSAM generation"
     fragments :=
       ["nonconsensual-sexual", "non-consensual-sexual", "child-sexual-abuse", "csam"] },
   { category := .highRisk
     ruleId := "eu-ai-act-employment-workforce"
     label := "employment, recruitment, worker management or worker monitoring decision"
     fragments :=
       ["employment:hiring", "employment:screen", "employment:rank", "recruitment:decision",
         "workforce:decision", "worker-management", "worker:performance", "worker:discipline"] },
   { category := .highRisk
     ruleId := "eu-ai-act-education-admission-grading"
     label := "education admission, assessment or grading decision"
     fragments :=
       ["education:admission", "education:grading", "education:grade", "student:admission",
         "student:assess", "exam-grading"] },
   { category := .highRisk
     ruleId := "eu-ai-act-credit-essential-services"
     label := "credit scoring or essential-services access decision"
     fragments :=
       ["credit-scoring", "credit:score", "credit:decision", "essential-services",
         "benefits:eligibility", "public-benefit:eligibility"] },
   { category := .highRisk
     ruleId := "eu-ai-act-law-enforcement-border-justice"
     label := "law enforcement, migration, asylum, border, justice or democratic-process decision"
     fragments :=
       ["law-enforcement", "law_enforcement", "migration:decision", "asylum:decision",
         "border-control", "justice:decision", "democratic-process", "election:decision"] },
   { category := .highRisk
     ruleId := "eu-ai-act-healthcare-critical-infrastructure"
     label := "healthcare decision or critical-infrastructure safety component"
     fragments :=
       ["healthcare:decision", "medical:diagnosis", "medical:triage", "clinical:decision",
         "critical-infrastructure", "grid:stabilize", "hospital:surge-capacity"] },
   { category := .highRisk
     ruleId := "eu-ai-act-physical-world-control"
     label := "robotics, drone, IoT or physical-world control"
     fragments :=
       ["robotics:control", "robotics:fleet", "drone:control", "drone:search", "iot:actuate",
         "physical-world", "system_control"] },
   { category := .transparencyRisk
     ruleId := "eu-ai-act-ai-interaction"
     label := "AI interaction or generated content notice required"
     fragments :=
       ["chatbot", "ai-assistant", "synthetic-media", "deepfake:labelled",
         "content:generate-public", "creative:generate"] }]

/-- `IntentClassification`. -/
structure IntentClassification where
  category : Category
  ruleId : Option String
  label : Option String
  deriving DecidableEq

/-- `REFUSAL_CODE`. -/
def refusalCode : String := "IICP-POLICY-001"

/-! ## The guard -/

/-- What is looked for in a text. -/
def fragmentsOf (rule : Rule) : List (List Char) := rule.fragments.map String.toList

/-- `intent.trim().to_ascii_lowercase()`. -/
def normalized (intent : String) : List Char := (trimChars intent.toList).map Char.toLower

/-- **`IntentPolicyGuard::classify`.** -/
def classify (intent : String) : IntentClassification :=
  match Screening.verdict fragmentsOf rules (normalized intent) with
  | some rule => ⟨rule.category, some rule.ruleId, some rule.label⟩
  | none => ⟨.minimalOrGeneral, none, none⟩

/-- The categories the public mesh refuses. -/
def Category.refuses : Category → Bool
  | prohibited | highRisk => true
  | transparencyRisk | minimalOrGeneral => false

/-- **`IntentPolicyGuard::public_mesh_refusal`.** -/
def publicMeshRefusal (intent : String) : Option IntentClassification :=
  if (classify intent).category.refuses then some (classify intent) else none

/-- `refusal_message`. -/
def refusalMessage (c : IntentClassification) : String :=
  "Intent refused by IICP directory policy before discovery/routing: "
    ++ c.label.getD "restricted intent" ++ " (" ++ c.ruleId.getD "policy" ++ ", "
    ++ c.category.text ++ "). Use a lawful, documented, human-reviewed compliance path "
    ++ "outside the public mesh for restricted/high-risk workflows."

/-- `policy_reject`. -/
def policyReject (c : IntentClassification) : Reject := ⟨refusalCode, refusalMessage c⟩

/-- **The guard of the handlers.** -/
def refused (intent : String) : Option Reject := (publicMeshRefusal intent).map policyReject

/-! ## What is refused -/

/-- A rule refuses what it meets. -/
def Rule.refuses (rule : Rule) : Bool := rule.category.refuses

/-- The refusing rules come first. -/
theorem refuses_first : rules.Pairwise fun a b => b.refuses = true → a.refuses = true := by
  rw [← List.pairwise_map (f := Rule.refuses) (R := fun a b => b = true → a = true)]
  decide

/-- No fragment has a blank. -/
theorem fragments_plain : ∀ rule ∈ rules, ∀ fragment ∈ fragmentsOf rule,
    ∀ c ∈ fragment, isWhitespace c = false := by
  have hall : (rules.all fun rule => (fragmentsOf rule).all fun fragment =>
      fragment.all fun c => !isWhitespace c) = true := by
    decide +kernel
  simp only [List.all_eq_true, Bool.not_eq_true'] at hall
  exact hall

/-- A blank is none for its case. -/
theorem isWhitespace_toLower (c : Char) : isWhitespace c.toLower = isWhitespace c := by
  rcases Addresses.toLower_cases c with h | ⟨n, hn, rfl⟩
  · rw [h]
  · have hall : ∀ n < 26,
        isWhitespace (Char.ofNat (n + 65)).toLower = isWhitespace (Char.ofNat (n + 65)) := by
      decide
    exact hall n hn

/-- An intent in small letters. -/
def lowered (intent : String) : List Char := intent.toList.map Char.toLower

theorem normalized_eq (intent : String) :
    normalized intent = Screening.trim isWhitespace (lowered intent) :=
  Screening.map_trim isWhitespace_toLower intent.toList

/-- The blanks around an intent are not looked at. -/
theorem meets_normalized {rule : Rule} (hrule : rule ∈ rules) (intent : String) :
    Screening.meets fragmentsOf (normalized intent) rule = true
      ↔ ∃ fragment ∈ rule.fragments, fragment.toList <:+: lowered intent := by
  rw [Screening.meets_iff, normalized_eq]
  constructor
  · rintro ⟨chars, hchars, hinfix⟩
    rw [Screening.infix_trim_iff (fragments_plain rule hrule chars hchars)] at hinfix
    obtain ⟨fragment, hfragment, rfl⟩ := List.mem_map.mp hchars
    exact ⟨fragment, hfragment, hinfix⟩
  · rintro ⟨fragment, hfragment, hinfix⟩
    have hchars : fragment.toList ∈ fragmentsOf rule := List.mem_map_of_mem hfragment
    exact ⟨fragment.toList, hchars,
      (Screening.infix_trim_iff (fragments_plain rule hrule _ hchars)).mpr hinfix⟩

theorem isSome_refused (intent : String) :
    (refused intent).isSome
      = (Screening.verdict fragmentsOf rules (normalized intent)).any Rule.refuses := by
  unfold refused publicMeshRefusal classify
  rw [Option.isSome_map]
  cases Screening.verdict fragmentsOf rules (normalized intent) with
  | none => rfl
  | some rule =>
    show (if rule.category.refuses = true then _ else _ : Option IntentClassification).isSome = _
    rw [Option.any_some, Rule.refuses]
    cases rule.category.refuses <;> rfl

/-- **An intent is refused just if it has a fragment of a refusing rule.** -/
theorem refused_iff (intent : String) :
    (refused intent).isSome = true
      ↔ ∃ rule ∈ rules, rule.refuses = true
        ∧ ∃ fragment ∈ rule.fragments, fragment.toList <:+: lowered intent := by
  rw [isSome_refused, Screening.any_verdict_iff refuses_first]
  constructor
  · rintro ⟨rule, hrule, hrefuses, hmeets⟩
    exact ⟨rule, hrule, hrefuses, (meets_normalized hrule intent).mp hmeets⟩
  · rintro ⟨rule, hrule, hrefuses, hmeets⟩
    exact ⟨rule, hrule, hrefuses, (meets_normalized hrule intent).mpr hmeets⟩

/-- **A refused intent is not let pass in disguise**: in capitals, or with
anything around it. -/
theorem refused_of_disguise {intent disguise : String} (hrefused : (refused intent).isSome = true)
    (h : lowered intent <:+: lowered disguise) : (refused disguise).isSome = true := by
  obtain ⟨rule, hrule, hrefuses, fragment, hfragment, hinfix⟩ := (refused_iff intent).mp hrefused
  exact (refused_iff disguise).mpr
    ⟨rule, hrule, hrefuses, fragment, hfragment, hinfix.trans h⟩

/-! ## What a refusal says -/

/-- A refusal is that of a rule. -/
theorem refused_eq_some {intent : String} {reject : Reject} (h : refused intent = some reject) :
    ∃ rule ∈ rules, reject = policyReject ⟨rule.category, some rule.ruleId, some rule.label⟩ := by
  obtain ⟨c, hc, rfl⟩ := Option.map_eq_some_iff.mp h
  unfold publicMeshRefusal at hc
  split at hc
  · next hrefuses =>
    obtain rfl := Option.some.inj hc
    unfold classify at hrefuses ⊢
    cases hverdict : Screening.verdict fragmentsOf rules (normalized intent) with
    | none =>
      rw [hverdict] at hrefuses
      exact absurd hrefuses Bool.false_ne_true
    | some rule => exact ⟨rule, List.mem_of_find?_eq_some hverdict, rfl⟩
  · exact absurd hc (by simp)

/-- What a refusal says of its rule has no colon. -/
theorem names_plain {rule : Rule} (hrule : rule ∈ rules) :
    rule.label.toList.count ':' = 0 ∧ rule.ruleId.toList.count ':' = 0
      ∧ rule.category.text.toList.count ':' = 0 := by
  have hall : (rules.all fun rule => rule.label.toList.count ':' == 0
      && (rule.ruleId.toList.count ':' == 0 && rule.category.text.toList.count ':' == 0))
        = true := by
    decide +kernel
  simp only [List.all_eq_true, Bool.and_eq_true, beq_iff_eq] at hall
  exact hall rule hrule

/-- The text of a rule's refusal has one colon, and so not what intents begin with. -/
theorem prefix_not_in_message {rule : Rule} (hrule : rule ∈ rules) :
    ¬ Admission.intentPrefix
      <:+: (refusalMessage ⟨rule.category, some rule.ruleId, some rule.label⟩).toList := by
  obtain ⟨hlabel, hruleId, hcategory⟩ := names_plain hrule
  have hfirst : "Intent refused by IICP directory policy before discovery/routing: ".toList.count ':'
      = 1 := by decide +kernel
  have hmiddle : "). Use a lawful, documented, human-reviewed compliance path ".toList.count ':'
      = 0 := by decide +kernel
  have hlast : "outside the public mesh for restricted/high-risk workflows.".toList.count ':'
      = 0 := by decide +kernel
  have hone : (refusalMessage
      ⟨rule.category, some rule.ruleId, some rule.label⟩).toList.count ':' = 1 := by
    unfold refusalMessage
    simp only [Option.getD_some, String.toList_append, List.count_append, hlabel, hruleId,
      hcategory, hfirst, hmiddle, hlast]
    decide
  intro hinfix
  have hle := hinfix.sublist.count_le ':'
  rw [hone] at hle
  exact absurd hle (by decide)

/-- **The guard cannot be got round, and tells nothing.** It refuses an intent
just if that has a fragment of a refusing rule; it refuses it too in capitals and
with anything around it; and no intent, least of all the refused one, occurs in
what it answers. -/
theorem refusal_inescapable (intent : String) :
    ((refused intent).isSome = true
        ↔ ∃ rule ∈ rules, rule.refuses = true
          ∧ ∃ fragment ∈ rule.fragments, fragment.toList <:+: lowered intent)
      ∧ (∀ disguise, lowered intent <:+: lowered disguise →
          (refused intent).isSome = true → (refused disguise).isSome = true)
      ∧ ∀ reject ∈ refused intent, reject.code = refusalCode
        ∧ ∀ urn, Admission.validIntent urn = true → ¬ urn.toList <:+: reject.message.toList := by
  refine ⟨refused_iff intent, fun disguise h hrefused => refused_of_disguise hrefused h, ?_⟩
  intro reject hreject
  obtain ⟨rule, hrule, rfl⟩ := refused_eq_some hreject
  refine ⟨rfl, fun urn hvalid hinfix => ?_⟩
  simp only [Admission.validIntent, Bool.and_eq_true] at hvalid
  have hstart := List.isPrefixOf_iff_prefix.mp hvalid.1.1.1
  exact prefix_not_in_message hrule (hstart.isInfix.trans hinfix)

namespace Sample

-- the taxonomy's own examples
example : (classify "  URN:IICP:INTENT:Social-Scoring:rank:v1 ").category = .prohibited := by
  decide +kernel

example : refused "urn:iicp:intent:ai-assistant:chat:v1" = none := by decide +kernel

end Sample

end IntentPolicy
