/-
Module: MethodForge.Log.Filter
Purpose: Which events are shown. A filter holds rules, each for the events of sources whose names start
  with a given text and that have a given field, and scopes, which are about spans and what is in
  them. Both are kept the most specific first, and the first rule that an event falls under decides
  about it. A directive that asks only that a field is there is a scope and a rule at once.
Main exports: Rule, Filter, Filter.ofText, Filter.text, Filter.shows, chooseFilter
-/
import MethodForge.Log.Directive
import MethodForge.Text.Utf8

namespace MethodForge.Log

/-- The order of two optional values: none comes first. -/
def orderOptions {α : Type} (order : α → α → Ordering) : Option α → Option α → Ordering
  | none, none => .eq
  | none, some _ => .lt
  | some _, none => .gt
  | some first, some second => order first second

/-- The order of targets by their lengths in bytes. -/
def orderLengths (first second : Option String) : Ordering :=
  orderOptions (fun first second => compare first.utf8ByteSize second.utf8ByteSize) first second

/-- The order of optional texts. -/
def orderTexts (first second : Option String) : Ordering :=
  orderOptions compare first second

/-- The order of two conditions: one that holds comes last. -/
def orderFlags (first second : Bool) : Ordering :=
  compare first.toNat second.toNat

/-- What is shown of the events of some sources. -/
structure Rule where
  /-- What the name of the source starts with. -/
  target? : Option String := none
  /-- The field that the event has. -/
  field? : Option String := none
  threshold : Threshold
deriving Repr, DecidableEq, Inhabited

namespace Rule

/-- The rule of a directive about events by themselves. -/
def ofDirective? (directive : Directive) : Option Rule :=
  match directive.span?, directive.field? with
  | none, none => some ⟨directive.target?, none, directive.threshold⟩
  | none, some ⟨name, none⟩ => some ⟨directive.target?, some name, directive.threshold⟩
  | _, _ => none

/-- How specific a rule is: the length of its target, then whether it asks for a field; texts decide
between equals. The threshold does not count. -/
def order (first second : Rule) : Ordering :=
  (orderLengths first.target? second.target?).then <|
    (orderFlags first.field?.isSome second.field?.isSome).then <|
      (orderTexts first.target? second.target?).then <| orderTexts first.field? second.field?

/-- Whether an event falls under the rule. -/
def covers (rule : Rule) (event : Event) : Bool :=
  (rule.target?.all fun target => target.toList.isPrefixOf event.source.target.toList) &&
    rule.field?.all event.fields.contains

/-- The directive with the meaning of a rule. -/
def toDirective (rule : Rule) : Directive :=
  { target? := rule.target?, field? := rule.field?.map fun name => ⟨name, none⟩,
    threshold := rule.threshold }

end Rule

/-- How specific a scope is: the length of its target, whether it asks for a span, and whether for a
field; what they are decides between equals. The threshold does not count. -/
def orderScopes (first second : Directive) : Ordering :=
  (orderLengths first.target? second.target?).then <|
    (orderFlags first.span?.isSome second.span?.isSome).then <|
      (orderFlags first.field?.isSome second.field?.isSome).then <|
        (orderTexts first.target? second.target?).then <|
          (orderTexts first.span? second.span?).then <|
            orderOptions FieldTest.order first.field? second.field?

/-- Puts something in its place in a list that starts with the greatest; its equal gives way. -/
def place {α : Type} (order : α → α → Ordering) (value : α) : List α → List α
  | [] => [value]
  | head :: rest =>
      match order value head with
      | .gt => value :: head :: rest
      | .eq => value :: rest
      | .lt => head :: place order value rest

/-- The list of some values that starts with the greatest; of two equals the later one counts. -/
def arrange {α : Type} (order : α → α → Ordering) (values : List α) : List α :=
  values.foldl (fun arranged value => place order value arranged) []

/-- Rules and scopes, in the order in which they are asked. -/
structure Filter where
  rules : List Rule
  scopes : List Directive := []
deriving Repr, DecidableEq

namespace Filter

/-- The filter of some directives. The rules of those that are no scopes come first, so that they
give way to equal ones. -/
def ofDirectives (directives : List Directive) : Filter :=
  let (scopes, others) := directives.partition Directive.isScoped
  ⟨arrange Rule.order ((others ++ scopes).filterMap Rule.ofDirective?),
    arrange orderScopes scopes⟩

/-- The filter that a text stands for: directives with commas between them, of which empty ones do
not count. -/
def ofText (text : String) : Except DirectiveFault Filter := do
  let pieces := (text.toList.splitOn ',').filter (!·.isEmpty)
  return ofDirectives (← pieces.mapM Directive.ofText)

/-- The text of a filter. -/
def text (filter : Filter) : String :=
  ",".intercalate ((filter.rules.map Rule.toDirective ++ filter.scopes).map Directive.text)

/-- Whether an event is shown. Events are noted outside of all spans, so no scope counts. -/
def shows (filter : Filter) (event : Event) : Bool :=
  match filter.rules.find? (·.covers event) with
  | some rule => event.level.rank ≤ rule.threshold.rank
  | none => false

end Filter

/-- The name of the variable in which a user sets a filter. -/
def filterVariable : String := "KORPC_LOG"

/-- The filter that shows what a user should know. -/
def defaultFilter : Filter :=
  { rules := [{ threshold := .upTo .info }] }

/-- The filter of a text, or else another one. A text that cannot be taken apart is no filter, and
stands in the way of any other. -/
def orElseFilter (reading : Except DirectiveFault Filter) (other : Except Cut Filter) :
    Except Cut Filter :=
  match reading with
  | .ok filter => .ok filter
  | .error (.cut cut) => .error cut
  | .error .malformed => other

/-- The filter of a run: the one that the environment gives if it can be read, else the one of the
level, else the default. -/
def chooseFilter (environment? : Option Text.Bytes) (level : String) : Except Cut Filter :=
  let fromLevel := orElseFilter (Filter.ofText level) (.ok defaultFilter)
  match environment?.bind fun bytes => (Text.Utf8.decode bytes).toOption with
  | some text => orElseFilter (Filter.ofText text) fromLevel
  | none => fromLevel

end MethodForge.Log
