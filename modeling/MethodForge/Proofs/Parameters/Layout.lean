/-
Module: MethodForge.Proofs.Parameters.Layout
Purpose: The layouts of a record as a JSON object. The members may come in any order, with members of
  other names among them, blanks between all tokens, and each character of a key or a value in any
  of its spellings. What is read depends on the values of the fields' keys only: a key that is not
  there counts as empty, and one that is there twice is a fault. The same holds of the text form,
  the base64 of such an object, with any blanks around it.
Main exports: MemberText, MembersText, ObjectText, collect, readMembers_of_membersText,
  ofJson_of_distinct, ofJson_of_repeated, decode_wrapped, decode_any_layout
-/
import MethodForge.Parameters.Codec
import MethodForge.Proofs.JsonText.Spelling
import MethodForge.Proofs.Text.Base64

namespace MethodForge.Parameters

open JsonText (Blanks Spells SpellsChar SpellsText skipBlanks_cons_of_not_blank skipBlanks_token)

/-- The members of an object, each with its key and its value. -/
abbrev Members := List (String × String)

/-! ### Layouts -/

/-- The layouts of one member: its key, a colon and its value, with blanks around the colon. -/
inductive MemberText (member : String × String) : List Char → Prop where
  | keyed {key before after value : List Char} (keySpells : SpellsText member.1 key)
      (blankBefore : Blanks before) (blankAfter : Blanks after)
      (valueSpells : SpellsText member.2 value) :
      MemberText member (key ++ (before ++ ':' :: (after ++ value)))

/-- What may stand in front of a member: blanks in front of the first one, and a comma with blanks
around it in front of any other. -/
inductive Separates : Bool → List Char → Prop where
  | first {blanks : List Char} (blank : Blanks blanks) : Separates true blanks
  | later {before after : List Char} (blankBefore : Blanks before) (blankAfter : Blanks after) :
      Separates false (before ++ ',' :: after)

/-- The layouts of the members up to the bracket that ends the object. `first` says that none stands
in front of them. -/
inductive MembersText : Bool → Members → List Char → Prop where
  | close {first : Bool} {blanks : List Char} (blank : Blanks blanks) :
      MembersText first [] (blanks ++ ['}'])
  | more {first : Bool} {member : String × String} {members : Members}
      {gap here later : List Char} (separates : Separates first gap)
      (isMember : MemberText member here) (areLater : MembersText false members later) :
      MembersText first (member :: members) (gap ++ (here ++ later))

/-- The layouts of an object with the given members. -/
inductive ObjectText (members : Members) : List Char → Prop where
  | braced {before inside after : List Char} (blankBefore : Blanks before)
      (areMembers : MembersText true members inside) (blankAfter : Blanks after) :
      ObjectText members (before ++ '{' :: (inside ++ after))

/-! ### One member -/

theorem Field.ofKey?_key (field : Field) : Field.ofKey? field.key = some field := by
  cases field <;> decide

theorem Field.ofKey?_eq_some_iff {key : String} {field : Field} :
    Field.ofKey? key = some field ↔ key = field.key := by
  constructor
  · intro found
    rw [ofKey?] at found
    have same := List.find?_some found
    exact (beq_iff_eq.1 same).symm
  · rintro rfl
    exact ofKey?_key field

theorem Field.key_injective : Function.Injective Field.key := by
  intro first second same
  exact Option.some.inj ((ofKey?_key first).symm.trans (same ▸ ofKey?_key second))

theorem Field.key_ne_of_ofKey?_none {key : String} (unknown : ofKey? key = none) (field : Field) :
    key ≠ field.key := by
  rintro rfl
  rw [ofKey?_key] at unknown
  cases unknown

/-- The reader goes on behind a gap as it does at the first member. -/
theorem readMembers_separates {first : Bool} {gap : List Char} (separates : Separates first gap)
    (steps : Nat) (found : Found) (rest : List Char) :
    readMembers (steps + 1) first found (gap ++ '"' :: rest) =
      readMembers (steps + 1) true found ('"' :: rest) := by
  have mark : JsonText.isJsonBlank '"' = false := by decide
  cases separates with
  | first blank =>
      simp only [readMembers, skipBlanks_token blank mark, skipBlanks_cons_of_not_blank mark]
  | later blankBefore blankAfter =>
      have comma : JsonText.isJsonBlank ',' = false := by decide
      rw [List.append_assoc, List.cons_append]
      simp only [readMembers, skipBlanks_token blankBefore comma, skipBlanks_token blankAfter mark,
        skipBlanks_cons_of_not_blank mark, if_true]
      simp

/-- A member is read as the value of its field, passed over if no field has its key, and refused if
its field has been found before. -/
theorem readMembers_member {first : Bool} {gap here : List Char} {member : String × String}
    (separates : Separates first gap) (isMember : MemberText member here) (steps : Nat)
    (found : Found) (rest : List Char) :
    ∃ place, readMembers (steps + 1) first found (gap ++ (here ++ rest)) =
      match Field.ofKey? member.1 with
      | none => readMembers steps false found rest
      | some field =>
          if (found.lookup field).isSome then .error (.behind (.duplicateField field.key) place)
          else readMembers steps false ((field, member.2) :: found) rest := by
  obtain ⟨⟨keySpells⟩, blankBefore, blankAfter, valueSpells⟩ := isMember
  have mark : JsonText.isJsonBlank '"' = false := by decide
  simp only [List.cons_append, List.append_assoc]
  rw [readMembers_separates separates, readMembers]
  simp only [skipBlanks_cons_of_not_blank mark, if_true, List.nil_append,
    JsonText.readString_of_spells keySpells, bind, Except.bind, String.ofList_toList,
    JsonText.passColon_blanks blankBefore,
    JsonText.passValue_of_spellsText blankAfter valueSpells,
    JsonText.expectString_of_spellsText blankAfter valueSpells]
  cases Field.ofKey? member.1 with
  | none => exact ⟨[], rfl⟩
  | some field => exact ⟨_, rfl⟩

/-! ### All members -/

/-- What reading members one after the other finds: members of other names count for nothing, and the
first field that has been found before ends it. -/
def collect : Members → Found → Except Field Found
  | [], found => .ok found
  | (key, value) :: members, found =>
      match Field.ofKey? key with
      | none => collect members found
      | some field =>
          if (found.lookup field).isSome then .error field
          else collect members ((field, value) :: found)

/-- What a reader gives that has collected the members in front of `rest`. -/
def outcome (rest place : List Char) : Except Field Found → JsonText.Parsed (Found × List Char)
  | .ok found => .ok (found, rest)
  | .error field => .error (.behind (.duplicateField field.key) place)

theorem readMembers_end {blanks : List Char} (blank : Blanks blanks) (steps : Nat) (first : Bool)
    (found : Found) (rest : List Char) :
    readMembers (steps + 1) first found (blanks ++ '}' :: rest) = .ok (found, rest) := by
  simp only [readMembers, skipBlanks_token blank (show JsonText.isJsonBlank '}' = false by decide)]

/-- Members in any layout are read as what they hold is collected. -/
theorem readMembers_of_membersText {first : Bool} {members : Members} {text : List Char}
    (areMembers : MembersText first members text) {steps : Nat} (enough : members.length < steps)
    (found : Found) (rest : List Char) :
    ∃ place, readMembers steps first found (text ++ rest) =
      outcome rest place (collect members found) := by
  induction areMembers generalizing steps found with
  | close blank =>
      cases steps with
      | zero => cases enough
      | succ steps =>
          refine ⟨[], ?_⟩
          rw [List.append_assoc]
          exact readMembers_end blank steps _ found rest
  | @more first member members gap here later separates isMember _ ih =>
      cases steps with
      | zero => cases enough
      | succ steps =>
          -- A member takes one of the steps, and as many are left as the later ones take.
          have enoughLater : members.length < steps := Nat.lt_of_succ_lt_succ enough
          obtain ⟨place, read⟩ := readMembers_member separates isMember steps found (later ++ rest)
          rw [List.append_assoc, List.append_assoc, read, collect]
          cases Field.ofKey? member.1 with
          | none => exact ih enoughLater found
          | some field =>
              by_cases seen : (found.lookup field).isSome = true
              · exact ⟨place, by simp only [if_pos seen, outcome]⟩
              · simp only [if_neg seen]
                exact ih enoughLater _

/-! ### What is collected -/

/-- How often a field comes: once if it has been found before, and once for each member with its
key. -/
def times (members : Members) (found : Found) (field : Field) : Nat :=
  (members.map Prod.fst).count field.key + (found.lookup field).isSome.toNat

theorem times_of_ofKey?_none {key : String} (unknown : Field.ofKey? key = none) (value : String)
    (members : Members) (found : Found) (field : Field) :
    times ((key, value) :: members) found field = times members found field := by
  rw [times, times, List.map_cons, List.count_cons_of_ne (Field.key_ne_of_ofKey?_none unknown field)]

/-- Finding a field moves it from the members to what was found. -/
theorem times_found {field : Field} {found : Found} (fresh : found.lookup field = none)
    (value : String) (members : Members) (other : Field) :
    times ((field.key, value) :: members) found other =
      times members ((field, value) :: found) other := by
  by_cases same : other = field
  · subst same
    simp [times, fresh]
  · have keys : field.key ≠ other.key := fun equal => same (Field.key_injective equal).symm
    simp [times, List.count_cons_of_ne keys, List.lookup_cons, beq_false_of_ne same]

/-- If all members are collected, no field comes twice. -/
theorem times_le_of_collect {members : Members} {found result : Found}
    (collected : collect members found = .ok result) (field : Field) :
    times members found field ≤ 1 := by
  fun_induction collect members found with
  | case1 found => simpa [times] using Bool.toNat_le _
  | case2 found key value members unknown ih =>
      rw [times_of_ofKey?_none unknown]
      exact ih collected
  | case3 => cases collected
  | case4 found key value members first known unseen ih =>
      rw [Field.ofKey?_eq_some_iff.1 known, times_found (Option.not_isSome_iff_eq_none.1 unseen)]
      exact ih collected

/-- A field that ends the collecting comes twice. -/
theorem le_times_of_collect {members : Members} {found : Found} {field : Field}
    (refused : collect members found = .error field) : 2 ≤ times members found field := by
  fun_induction collect members found with
  | case1 => cases refused
  | case2 found key value members unknown ih =>
      rw [times_of_ofKey?_none unknown]
      exact ih refused
  | case3 found key value members first known seen =>
      cases refused
      rw [Field.ofKey?_eq_some_iff.1 known]
      simp [times, seen]
  | case4 found key value members first known unseen ih =>
      rw [Field.ofKey?_eq_some_iff.1 known, times_found (Option.not_isSome_iff_eq_none.1 unseen)]
      exact ih refused

/-- The value collected for a field is that of the member with its key. -/
theorem lookup_of_collect {members : Members} {found result : Found}
    (collected : collect members found = .ok result) (field : Field) :
    result.lookup field = (found.lookup field).or (members.lookup field.key) := by
  fun_induction collect members found with
  | case1 found =>
      cases collected
      simp
  | case2 found key value members unknown ih =>
      have other := (Field.key_ne_of_ofKey?_none unknown field).symm
      rw [ih collected, List.lookup_cons, beq_false_of_ne other]
  | case3 => cases collected
  | case4 found key value members first known unseen ih =>
      obtain rfl := Field.ofKey?_eq_some_iff.1 known
      rw [ih collected]
      by_cases same : field = first
      · subst same
        simp [Option.not_isSome_iff_eq_none.1 unseen]
      · have keys : field.key ≠ first.key := fun equal => same (Field.key_injective equal)
        simp [List.lookup_cons, beq_false_of_ne same, beq_false_of_ne keys]

/-! ### An object -/

/-- The record that members hold. A key that is not there counts as empty. -/
def Members.record (members : Members) : Parameters :=
  ofFields fun field => (members.lookup field.key).getD ""

/-- Every member takes a character at least. -/
theorem MembersText.length_lt {first : Bool} {members : Members} {text : List Char}
    (areMembers : MembersText first members text) : members.length < text.length := by
  induction areMembers with
  | close _ => simp
  | more _ isMember _ ih =>
      cases isMember
      simp only [List.length_append, List.length_cons]
      omega

/-- An object in any layout is read as what its members hold is collected. -/
theorem ofJson_of_objectText {members : Members} {text : List Char}
    (layout : ObjectText members text) :
    ∃ place, ofJson text =
      match collect members [] with
      | .ok found => .ok (ofFields found.get)
      | .error field => .error (.behind (.duplicateField field.key) place) := by
  obtain @⟨before, inside, after, blankBefore, areMembers, blankAfter⟩ := layout
  have enough : members.length < (inside ++ after).length + 1 := by
    have shorter := areMembers.length_lt
    rw [List.length_append]
    omega
  obtain ⟨place, read⟩ := readMembers_of_membersText areMembers enough [] after
  refine ⟨place, ?_⟩
  rw [ofJson, readRecord, skipBlanks_token blankBefore (by decide)]
  simp only [read]
  cases collect members [] with
  | ok found =>
      simp [outcome, bind, Except.bind, JsonText.skipBlanks_of_blanks blankAfter, pure, Except.pure]
  | error field => rfl

/-- An object without a second member of any field is read as the record of its members. -/
theorem ofJson_of_distinct {members : Members} {text : List Char}
    (layout : ObjectText members text)
    (distinct : ∀ field : Field, (members.map Prod.fst).count field.key ≤ 1) :
    ofJson text = .ok members.record := by
  obtain ⟨place, read⟩ := ofJson_of_objectText layout
  rw [read]
  cases collected : collect members [] with
  | ok found =>
      have values : found.get = fun field => (members.lookup field.key).getD "" := by
        funext field
        rw [Found.get, lookup_of_collect collected]
        simp
      simp only [values, Members.record]
  | error field =>
      have twice := le_times_of_collect collected
      have once := distinct field
      simp [times] at twice
      omega

/-- An object with two members of a field is refused for such a field. -/
theorem ofJson_of_repeated {members : Members} {text : List Char} (layout : ObjectText members text)
    {field : Field} (twice : 2 ≤ (members.map Prod.fst).count field.key) :
    ∃ (repeated : Field) (place : List Char), 2 ≤ (members.map Prod.fst).count repeated.key ∧
      ofJson text = .error (.behind (.duplicateField repeated.key) place) := by
  obtain ⟨place, read⟩ := ofJson_of_objectText layout
  cases collected : collect members [] with
  | ok found =>
      have once := times_le_of_collect collected field
      simp [times] at once
      omega
  | error repeated =>
      refine ⟨repeated, place, ?_, by rw [read, collected]⟩
      simpa [times] using le_times_of_collect collected

/-! ### The text form -/

theorem mapError_ok {ε ε' α : Type} (wrap : ε → ε') (value : α) :
    (Except.ok value : Except ε α).mapError wrap = .ok value := rfl

theorem isWhole_iff (parameters : Parameters) :
    parameters.isWhole = true ↔ (parameters.service = "" ↔ parameters.method = "") := by
  rw [isWhole, beq_iff_eq, Bool.eq_iff_iff, String.isEmpty_iff, String.isEmpty_iff]

theorem map_validate (parameters : Parameters) :
    (parameters.validate.map fun _ => parameters) =
      if parameters.service = "" ↔ parameters.method = "" then .ok parameters
      else .error (.partialTarget parameters.service parameters.method) := by
  by_cases whole : parameters.isWhole = true
  · rw [validate, if_pos whole, if_pos ((isWhole_iff parameters).1 whole)]
    rfl
  · rw [validate, if_neg whole, if_neg fun both => whole ((isWhole_iff parameters).2 both)]
    rfl

/-- The base64 of a JSON text, with any blanks around it, is read as the text is. -/
theorem decode_wrapped (text : List Char) {before after : String} (blankBefore : Text.Blank before)
    (blankAfter : Text.Blank after) :
    decode (before ++ Text.Base64.encode (Text.Utf8.encodeChars text) ++ after) =
      ((ofJson text).mapError (.json · text)).bind fun parameters =>
        parameters.validate.map fun _ => parameters := by
  have trimmed := Text.trim_append blankBefore
    (Text.Base64.solid_encode (Text.Utf8.encodeChars text)) blankAfter
  rw [decode, trimmed, Text.Base64.decode_encode, mapError_ok]
  simp only [bind, Except.bind, Text.Utf8.decodeChars_encodeChars, mapError_ok]
  cases (ofJson text).mapError (ParameterError.json · text) with
  | error fault => rfl
  | ok parameters => cases parameters.validate <;> rfl

/-- The text form of a record may hold its members in any layout. If no key of a field comes twice,
the values of these keys are read, and the record is refused only for naming a service without a
method or a method without a service; if some key of a field comes twice, one such key is reported.
-/
theorem decode_any_layout {members : Members} {text : List Char} (layout : ObjectText members text)
    {before after : String} (blankBefore : Text.Blank before) (blankAfter : Text.Blank after) :
    let encoded := before ++ Text.Base64.encode (Text.Utf8.encodeChars text) ++ after
    ((∀ field : Field, (members.map Prod.fst).count field.key ≤ 1) →
        decode encoded =
          if members.record.service = "" ↔ members.record.method = "" then .ok members.record
          else .error (.partialTarget members.record.service members.record.method)) ∧
      ∀ field : Field, 2 ≤ (members.map Prod.fst).count field.key →
        ∃ (repeated : Field) (place : List Char), 2 ≤ (members.map Prod.fst).count repeated.key ∧
          decode encoded =
            .error (.json (.behind (.duplicateField repeated.key) place) text) := by
  intro encoded
  have read := decode_wrapped text blankBefore blankAfter
  constructor
  · intro distinct
    rw [ofJson_of_distinct layout distinct] at read
    exact read.trans (map_validate members.record)
  · intro field twice
    obtain ⟨repeated, place, also, refused⟩ := ofJson_of_repeated layout twice
    rw [refused] at read
    exact ⟨repeated, place, also, read⟩

/-- With escapes in keys and values, blanks, and a member of an unknown name. -/
theorem decode_any_layout_escaped :
    decode "\t eyAieCIgOiAiXHVkODNkXHVERTAwIiwiYlx1MDA2MXNlIjoiLyJ9\n" = .ok { base := "/" } ∧
      ∃ (repeated : Field) (place : List Char),
        decode "eyJiXHUwMDYxc2UiOiIvIiwiYlx1MDA2MXNlIjoiLyJ9" =
          .error (.json (.behind (.duplicateField repeated.key) place)
            "\x7b\"b\\u0061se\":\"/\",\"b\\u0061se\":\"/\"\x7d".toList) := by
  have space : Blanks [' '] := by decide
  have comma : Separates false [','] := .later .nil .nil
  have face : SpellsChar '😀'
      ('\\' :: 'u' :: (['d', '8', '3', 'd'] ++ '\\' :: 'u' :: ['D', 'E', '0', '0'])) :=
    .pair (by decide) ⟨by decide, by decide, by decide, by decide⟩
      ⟨by decide, by decide, by decide, by decide⟩
  have letter : SpellsChar 'a' ('\\' :: 'u' :: ['0', '0', '6', '1']) :=
    .unit ⟨by decide, by decide, by decide, by decide⟩
  have key : Spells "base".toList _ :=
    .cons (.itself (by decide) (by decide) (by decide)) (.cons letter (.itself (by decide)))
  have base : MemberText ("base", "/") _ :=
    .keyed (.quoted key) .nil .nil (.quoted (.itself (by decide)))
  have unknown : MemberText ("x", "😀") _ :=
    .keyed (.quoted (.itself (by decide))) space space (.quoted (.cons face .nil))
  have once : ObjectText [("x", "😀"), ("base", "/")] _ :=
    .braced .nil (.more (.first space) unknown (.more comma base (.close .nil))) .nil
  have twice : ObjectText [("base", "/"), ("base", "/")] _ :=
    .braced .nil (.more (.first .nil) base (.more comma base (.close .nil))) .nil
  constructor
  · have read := decode_any_layout once (show Text.Blank "\t " by decide)
      (show Text.Blank "\n" by decide)
    exact read.1 (by intro field; cases field <;> decide)
  · have none : Text.Blank "" := List.forall_mem_nil _
    obtain ⟨repeated, place, -, refused⟩ := (decode_any_layout twice none none).2 .base (by decide)
    exact ⟨repeated, place, refused⟩

end MethodForge.Parameters
