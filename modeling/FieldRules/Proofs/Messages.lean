import Mathlib.Data.List.TakeWhile
import FieldRules.Validator
import FieldRules.Proofs.ChainRun

namespace FieldRules

theorem findSome?_id_cons {α : Type} (a : Option α) (l : List (Option α)) :
    (a :: l).findSome? id = a.or (l.findSome? id) := by
  cases a <;> rfl

theorem bind_or_distrib {α β : Type} (o : Option α) (x y : α → Option β) :
    o.bind (fun a => (x a).or (y a)) = (o.bind x).or (o.bind y) := by
  cases o <;> rfl

/-- The text a placeholder name stands for: its value, or the name as written. -/
def placeholderText (value : String → Option String) (name : List Char) : List Char :=
  match value (String.ofList name) with
  | some v => v.toList
  | none => ':' :: name

/-- Replaces placeholders as a left-to-right replace-all of `:[a-z][a-z_]*` does: at a colon
before a lowercase letter the longest name is taken and replaced, and the scan goes on after
the name. -/
def replaceNames (value : String → Option String) : List Char → List Char
  | [] => []
  | ':' :: d :: more =>
    if 'a' ≤ d && d ≤ 'z' then
      placeholderText value (d :: more.takeWhile isNameChar) ++
        replaceNames value (more.dropWhile isNameChar)
    else ':' :: replaceNames value (d :: more)
  | c :: rest => c :: replaceNames value rest
termination_by cs => cs.length
decreasing_by
  all_goals simp only [List.length_cons]
  · have := List.length_dropWhile_le more (p := isNameChar)
    omega
  · omega
  · omega

section Replace

variable (value : String → Option String)

theorem replaceNames_colon_name {d : Char} (hd : ('a' ≤ d && d ≤ 'z') = true) (more : List Char) :
    replaceNames value (':' :: d :: more) =
      placeholderText value (d :: more.takeWhile isNameChar) ++
        replaceNames value (more.dropWhile isNameChar) := by
  rw [replaceNames, if_pos hd]

theorem replaceNames_colon_other {d : Char} (hd : ('a' ≤ d && d ≤ 'z') = false)
    (more : List Char) :
    replaceNames value (':' :: d :: more) = ':' :: replaceNames value (d :: more) := by
  rw [replaceNames, if_neg (by simp [hd])]

theorem replaceNames_colon_end : replaceNames value [':'] = [':'] := by
  simp [replaceNames]

theorem replaceNames_of_ne {c : Char} (hc : c ≠ ':') (rest : List Char) :
    replaceNames value (c :: rest) = c :: replaceNames value rest := by
  rw [replaceNames]
  intro d more h
  exact absurd h hc

end Replace

/-- The scanner of `substitute` against the replace-all, one statement per state: in text it is
the replace-all; just after a colon it is the replace-all of the rest with the colon put back;
inside a name it finishes the longest name first. By induction on the rest of the template. -/
theorem substitute_go (lookup : String → Option String) (cs : List Char) :
    substitute.go lookup .text cs = replaceNames lookup cs ∧
      substitute.go lookup .colon cs = replaceNames lookup (':' :: cs) ∧
      ∀ rev, substitute.go lookup (.name rev) cs =
        placeholderText lookup (rev.reverse ++ cs.takeWhile isNameChar) ++
          replaceNames lookup (cs.dropWhile isNameChar) := by
  induction cs with
  | nil =>
    refine ⟨by rw [replaceNames]; rfl, by rw [replaceNames_colon_end]; rfl, fun rev => ?_⟩
    simp only [substitute.go, List.takeWhile_nil, List.dropWhile_nil, List.append_nil]
    rw [replaceNames, List.append_nil]
    rfl
  | cons c rest ih =>
    obtain ⟨htext, hcolon, hname⟩ := ih
    refine ⟨?_, ?_, fun rev => ?_⟩
    · -- in text: a colon moves to the colon state, any other character is kept
      by_cases hc : c = ':'
      · subst hc
        simp [substitute.go, hcolon]
      · simp [substitute.go, hc, htext, replaceNames_of_ne lookup hc]
    · -- after a colon: a letter opens a name, a colon stays, anything else is kept
      cases hd : ('a' ≤ c && c ≤ 'z')
      · rw [replaceNames_colon_other lookup hd]
        by_cases hc : c = ':'
        · subst hc
          simp [substitute.go, hcolon]
        · simp [substitute.go, hd, hc, htext, replaceNames_of_ne lookup hc]
      · rw [replaceNames_colon_name lookup hd, substitute.go, if_pos hd, hname]
        rfl
    · -- inside a name: a name character extends it, anything else ends it
      by_cases hn : isNameChar c = true
      · simp only [substitute.go, if_pos hn, hname, List.takeWhile_cons_of_pos hn,
          List.dropWhile_cons_of_pos hn, List.reverse_cons, List.append_assoc,
          List.singleton_append]
      · have hemit : substitute.emit lookup rev = placeholderText lookup rev.reverse := rfl
        simp only [substitute.go, if_neg hn, List.takeWhile_cons_of_neg hn,
          List.dropWhile_cons_of_neg hn, List.append_nil, hemit]
        by_cases hc : c = ':'
        · subst hc
          simp [hcolon]
        · simp [hc, htext, replaceNames_of_ne lookup hc]

theorem substitute_eq (lookup : String → Option String) (template : String) :
    substitute lookup template = String.ofList (replaceNames lookup template.toList) := by
  rw [substitute, (substitute_go lookup template.toList).1]

namespace Catalog

/-- The template a catalog holds for a field and a rule key. -/
def fieldEntry (c : Catalog) (field key : String) : Option String :=
  (c.fields.lookup field).bind (·.lookup key)

theorem fieldTemplate_eq (c : Catalog) (r : Request) :
    c.fieldTemplate r = (c.fieldEntry r.field r.rule).or (c.fieldEntry r.pattern r.rule) := by
  simp only [fieldTemplate, fieldEntry, List.findSome?_cons, List.findSome?_nil]
  cases (c.fields.lookup r.field).bind (·.lookup r.rule) <;>
    cases (c.fields.lookup r.pattern).bind (·.lookup r.rule) <;> rfl

theorem displayName?_eq (c : Catalog) (r : Request) :
    c.displayName? r = (c.attributes.lookup r.field).or (c.attributes.lookup r.pattern) := by
  simp only [displayName?, List.findSome?_cons, List.findSome?_nil]
  cases c.attributes.lookup r.field <;> cases c.attributes.lookup r.pattern <;> rfl

end Catalog

/-- The type scope of a rule's messages: the parent type of a type-scoped rule, else the
chain's base type. -/
def messageScope (kind : RuleKind) (base : Option BaseType) : Option String :=
  match kind with
  | .additional parent _ => some parent.scope
  | _ => base.map BaseType.scope

namespace Formatter

variable (f : Formatter) (r : Request)

/-- The eight catalog entries a template is looked up in, most specific first. -/
def templateCandidates : List (Option String) :=
  [f.overrides.fieldEntry r.field r.rule, f.overrides.fieldEntry r.pattern r.rule,
    f.locale.bind (·.fieldEntry r.field r.rule), f.locale.bind (·.fieldEntry r.pattern r.rule),
    r.scope.bind (fun s => f.overrides.rules.lookup (r.rule ++ "." ++ s)),
    f.overrides.rules.lookup r.rule,
    f.locale.bind (fun c => r.scope.bind fun s => c.rules.lookup (r.rule ++ "." ++ s)),
    f.locale.bind (·.rules.lookup r.rule)]

/-- The display name of the field: the first attribute found (override catalog, then locale;
concrete path, then pattern), else the concrete path with underscores shown as spaces. -/
def attributeName : String :=
  ([f.overrides.attributes.lookup r.field, f.overrides.attributes.lookup r.pattern,
      f.locale.bind (·.attributes.lookup r.field),
      f.locale.bind (·.attributes.lookup r.pattern)].findSome? id).getD
    (String.ofList (r.field.toList.map fun c => if c = '_' then ' ' else c))

/-- The value of a placeholder name: the display name, the value shown, else the first pair
of that name. -/
def placeholderValue (pairs : List (String × String)) (name : String) : Option String :=
  if name = "attribute" then some (f.attributeName r)
  else if name = "value" then some ((r.value.map displayValue).getD "")
  else pairs.lookup name

/-- A template with its placeholders replaced. -/
def customMessage (template : String) (pairs : List (String × String)) : String :=
  String.ofList (replaceNames (f.placeholderValue r pairs) template.toList)

/-- The message from the catalogs: the first template found, else the fallback, with its
placeholders replaced. -/
def catalogMessage (fallback : String) (pairs : List (String × String)) : String :=
  f.customMessage r (((f.templateCandidates r).findSome? id).getD fallback) pairs

theorem template_eq (fallback : String) :
    f.template r fallback = ((f.templateCandidates r).findSome? id).getD fallback := by
  simp only [template, templateCandidates, Catalog.fieldTemplate_eq, Catalog.ruleTemplate,
    findSome?_id_cons, List.findSome?_nil, bind_or_distrib, Option.or_assoc, Option.or_none]

theorem displayName_eq : f.displayName r = f.attributeName r := by
  simp only [displayName, attributeName, Catalog.displayName?_eq, findSome?_id_cons,
    List.findSome?_nil, bind_or_distrib, Option.or_assoc, Option.or_none]
  split
  · rename_i a ha
    rw [ha]
    rfl
  · rename_i ha
    rw [ha]
    simp

theorem renderCustom_eq (template : String) (pairs : List (String × String)) :
    f.renderCustom r template pairs = f.customMessage r template pairs := by
  have hvalue : (fun name => if (name == "attribute") = true then some (f.displayName r)
      else if (name == "value") = true then some ((r.value.map displayValue).getD "")
      else pairs.lookup name) = f.placeholderValue r pairs := by
    funext name
    simp [placeholderValue, displayName_eq]
  rw [renderCustom, substitute_eq, hvalue]
  rfl

theorem render_eq (fallback : String) (pairs : List (String × String)) :
    f.render r fallback pairs = f.catalogMessage r fallback pairs := by
  rw [render, renderCustom_eq, template_eq]
  rfl

end Formatter

/-- The catalog of a locale: the one registered under it, else the one registered under its
language, the part before the first `-` or `_`. -/
def localeCatalog (catalogs : List (String × Catalog)) (locale : String) : Option Catalog :=
  (catalogs.lookup locale).or
    (catalogs.lookup (String.ofList (locale.toList.takeWhile fun c => c != '-' && c != '_')))

theorem Validator.catalog?_eq (v : Validator) (locale : String) :
    v.catalog? locale = localeCatalog v.catalogs locale := by
  have hlang : (fun c => !isLocaleSeparator c) = (fun c : Char => c != '-' && c != '_') := by
    funext c
    simp only [isLocaleSeparator, Bool.not_or]
    rfl
  unfold catalog? localeCatalog
  cases hl : v.catalogs.lookup locale with
  | some c => rfl
  | none =>
    simp only [Option.none_or]
    split
    · rw [hlang]
    · -- without a separator the language is the whole locale, already looked up
      rename_i hsep
      have hwhole : locale.toList.takeWhile (fun c => c != '-' && c != '_') = locale.toList := by
        rw [List.takeWhile_eq_self_iff]
        intro x hx
        have hx' : isLocaleSeparator x = false := by
          simpa using List.any_eq_false.1 (by simpa using hsep) x hx
        simpa [isLocaleSeparator] using hx'
      rw [hwhole, String.ofList_toList, hl]

/-- What a rule of a chain renders its message for on an instance. -/
def messageRequest (inst : Instance) (chain : Chain) (r : CompiledRule) : Request :=
  ⟨inst.field, inst.pattern, r.messageKey, messageScope r.kind chain.baseType, inst.value⟩

theorem Engine.context_request (e : Engine) (inst : Instance) (chain : Chain) (r : CompiledRule) :
    (e.context inst chain r).request = messageRequest inst chain r := by
  cases hk : r.kind <;>
    simp [Context.request, context, messageRequest, messageScope, hk, Context.ruleName,
      CompiledRule.messageKey]

/-- Which message a failing rule gets. A validation runs an engine whose overrides are the
options' catalog and whose locale catalog is that of the options' locale or of its language.
Every engine records under a rule's message key, for a plain failure or one with details, the
first catalog template found (else the rule's fallback) with its placeholders replaced: the
display name, the value shown, else the handler's placeholders before the details. A template
the verdict supplies skips the catalogs. -/
theorem Engine.failure_message_from_catalogs (v : Validator) (now : Calendar.Moment)
    (cfg : Config) :
    (∀ data schema, v.validateWith now data schema cfg =
      Engine.validate ⟨v.registry, cfg, ⟨cfg.messages, localeCatalog v.catalogs cfg.locale⟩, now⟩
        data schema) ∧
    ∀ (e : Engine) (inst : Instance) (chain : Chain) (r : CompiledRule),
      e.failureOf inst chain r .fail = some ⟨r.messageKey,
        e.formatter.catalogMessage (messageRequest inst chain r) r.handler.fallback
          (r.handler.placeholders (e.context inst chain r) r.params)⟩ ∧
      (∀ extra, e.failureOf inst chain r (.failWith extra) = some ⟨r.messageKey,
        e.formatter.catalogMessage (messageRequest inst chain r) r.handler.fallback
          (r.handler.placeholders (e.context inst chain r) r.params ++ extra)⟩) ∧
      (∀ t, e.failureOf inst chain r (.failMessage t) = some ⟨r.messageKey,
        e.formatter.customMessage (messageRequest inst chain r) t
          (r.handler.placeholders (e.context inst chain r) r.params)⟩) := by
  refine ⟨fun data schema => ?_, fun e inst chain r => ?_⟩
  · rw [Validator.validateWith, Validator.catalog?_eq]
  · have hrender : ∀ fallback pairs, (e.context inst chain r).renderMessage fallback pairs =
        e.formatter.catalogMessage (messageRequest inst chain r) fallback pairs := by
      intro fallback pairs
      rw [Context.renderMessage, context_request, ← Formatter.render_eq]
      rfl
    have hcustom : ∀ t pairs, (e.context inst chain r).renderCustom t pairs =
        e.formatter.customMessage (messageRequest inst chain r) t pairs := by
      intro t pairs
      rw [Context.renderCustom, context_request, ← Formatter.renderCustom_eq]
      rfl
    refine ⟨?_, fun extra => ?_, fun t => ?_⟩ <;>
      simp only [failureOf, failureMessage, hrender, hcustom, Option.map_some]

end FieldRules
