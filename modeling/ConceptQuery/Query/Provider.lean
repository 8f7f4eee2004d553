import ConceptQuery.Error
import ConceptQuery.Query.Expression.Basic
import ConceptQuery.Json.Write
import ConceptQuery.Text.Quoted

/-!
# Providers

A provider decides which expression stands for one writing of a concept in one field. The
`term` provider gives the exact term; the `template` provider rewrites the term, and optionally
the field, from templates in which `{field}` and `{text}` are replaced; a `custom` provider is any
function. Providers are created by name from a `ProviderRegistry`, which builds each from request
parameters.

**Templates** are filled in two passes: first every `{field}` is replaced by the field name, then
every `{text}` of the result by the term's text. So a field name that itself holds `{text}` has
that placeholder filled too. An empty rendered term is refused.
-/

namespace ConceptQuery

/-- How a field and a writing become an expression.
Source: `TermExpressionProvider`, with `TermProvider` and `TemplateProvider`. -/
inductive Provider where
  /-- The exact term in the field. -/
  | term
  /-- The exact rendered term in the field or in the rendered field. -/
  | template (termTemplate : String) (fieldTemplate : Option String)
  /-- Any expansion. -/
  | custom (expand : String → String → Except Error Expression)

/-- Replace every occurrence of the pattern `p :: ps` in a list of characters, left to right
without overlaps; the characters already passed are `acc`, last first. -/
def replaceChars (p : Char) (ps replacement acc : List Char) : List Char → List Char
  | [] => acc.reverse
  | c :: rest =>
    if (p :: ps).isPrefixOf (c :: rest) then
      replaceChars p ps replacement (replacement.reverse ++ acc) (rest.drop ps.length)
    else replaceChars p ps replacement (c :: acc) rest
termination_by cs => cs.length
decreasing_by
  all_goals simp only [List.length_drop, List.length_cons]
  all_goals omega

/-- Replace every occurrence of a pattern in a text; an empty pattern changes nothing. -/
def replaceText (s pattern replacement : String) : String :=
  match pattern.toList with
  | [] => s
  | p :: ps => String.ofList (replaceChars p ps replacement.toList [] s.toList)

namespace Provider

/-- The name a provider reports.
Source: `TermExpressionProvider::name`. -/
def name : Provider → String
  | .term => "term"
  | .template .. => "template"
  | .custom _ => "custom"

/-- Fill a template: `{field}` first, then `{text}`.
Source: `TemplateProvider::render`. -/
def fill (template field text : String) : String :=
  replaceText (replaceText template "{field}" field) "{text}" text

/-- The expression of a writing in a field.
Source: `TermExpressionProvider::expand`. -/
def expand (p : Provider) (field text : String) : Except Error Expression :=
  match p with
  | .term => .ok (Expression.term field text)
  | .template termTemplate fieldTemplate =>
    let rendered := fill termTemplate field text
    if rendered.isEmpty then
      .error (.provider ("template rendered an empty term for " ++ field ++ ":" ++ text))
    else
      let target := match fieldTemplate with
        | some t => fill t field text
        | none => field
      .ok (Expression.term target rendered)
  | .custom f => f field text

/-- `TermExpressionProvider(NAME)`, the debugging description of a provider.
Source: `TermExpressionProvider::fmt`. -/
def describe (p : Provider) : String := "TermExpressionProvider(" ++ p.name ++ ")"

/-- The template provider of request parameters: a string `template`, and an optional string
`field`.
Source: `TemplateProvider::from_params`. -/
def ofTemplateParams (params : Json.Members) : Except Error Provider := do
  let template ← match (params.find? (·.1 == "template")).map Prod.snd with
    | some (.string t) => pure t
    | some other =>
      throw (.provider ("[template] parameter must be a string, got " ++ Json.compact other))
    | none => throw (.provider "[template] parameter is required")
  let field ← match (params.find? (·.1 == "field")).map Prod.snd with
    | some (.string f) => pure (some f)
    | some other =>
      throw (.provider ("[field] parameter must be a string, got " ++ Json.compact other))
    | none => pure none
  pure (.template template field)

end Provider

/-- Builds a provider from request parameters.
Source: `ProviderFactory`. -/
def ProviderFactory := Json.Members → Except Error Provider

/-- Named provider factories, sorted by name.
Source: `ProviderRegistry`. -/
structure ProviderRegistry where
  /-- The factories by name, sorted by name. -/
  factories : List (String × ProviderFactory)

namespace ProviderRegistry

/-- A registry without providers.
Source: `ProviderRegistry::new`. -/
def empty : ProviderRegistry := ⟨[]⟩

/-- Insert a factory into a list sorted by name, replacing one of the same name. -/
def insertFactory (name : String) (f : ProviderFactory) :
    List (String × ProviderFactory) → List (String × ProviderFactory)
  | [] => [(name, f)]
  | (n, g) :: rest =>
    if name < n then (name, f) :: (n, g) :: rest
    else if name == n then (name, f) :: rest
    else (n, g) :: insertFactory name f rest

/-- Register a factory under a name, replacing any earlier one.
Source: `ProviderRegistry::register_factory`. -/
def registerFactory (r : ProviderRegistry) (name : String) (f : ProviderFactory) :
    ProviderRegistry :=
  ⟨insertFactory name f r.factories⟩

/-- Register a provider that ignores parameters.
Source: `ProviderRegistry::register`. -/
def register (r : ProviderRegistry) (name : String) (p : Provider) : ProviderRegistry :=
  r.registerFactory name fun _ => .ok p

/-- The registry with `term` and `template`.
Source: `ProviderRegistry::with_defaults`. -/
def defaults : ProviderRegistry :=
  (empty.register "term" .term).registerFactory "template" Provider.ofTemplateParams

/-- Create the provider registered under a name from parameters.
Source: `ProviderRegistry::create`. -/
def create (r : ProviderRegistry) (name : String) (params : Json.Members) :
    Except Error Provider :=
  match r.factories.find? (·.1 == name) with
  | some (_, f) => f params
  | none => .error (.provider ("Unknown provider [" ++ name ++ "]"))

/-- The registered names, sorted.
Source: `ProviderRegistry::names`. -/
def names (r : ProviderRegistry) : List String := r.factories.map Prod.fst

/-- Whether a name is registered.
Source: `ProviderRegistry::contains`. -/
def contains (r : ProviderRegistry) (name : String) : Bool := r.names.contains name

/-- `ProviderRegistry { names: [...] }`, the debugging description of a registry.
Source: `ProviderRegistry::fmt`. -/
def describe (r : ProviderRegistry) : String :=
  "ProviderRegistry \x7b names: [" ++ ", ".intercalate (r.names.map Text.quoted) ++ "] \x7d"

end ProviderRegistry

end ConceptQuery
