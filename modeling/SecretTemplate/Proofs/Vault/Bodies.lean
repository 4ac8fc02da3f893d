import SecretTemplate.Vault.Client

namespace SecretTemplate

open Text.Utf8 (Bytes)
open Json (Tree)

namespace Json.Tree

def IsUnset (member : Option Tree) : Prop := member = none ∨ member = some .null

theorem optional?_of_unset {α : Type} {read : Tree → Option α} {member : Option Tree} (unset : IsUnset member) :
    optional? read member = some none := by
  rcases unset with rfl | rfl <;> rfl

theorem optional?_of_set {α : Type} {read : Tree → Option α} {tree : Tree} (set : tree ≠ .null) :
    optional? read (some tree) = (read tree).map some := by
  cases tree with
  | null => cases set rfl
  | _ => rfl

theorem optional?_eq_some_iff {α : Type} {read : Tree → Option α} {member : Option Tree} {found : Option α} :
    optional? read member = some found ↔
      IsUnset member ∧ found = none ∨ ∃ tree value, member = some tree ∧ tree ≠ .null ∧ read tree = some value ∧
        found = some value := by
  constructor
  · intro given
    by_cases unset : IsUnset member
    · rw [optional?_of_unset unset] at given
      exact .inl ⟨unset, (Option.some.inj given).symm⟩
    · obtain ⟨absent, null⟩ := not_or.mp unset
      obtain ⟨tree, rfl⟩ := Option.ne_none_iff_exists'.mp absent
      have set : tree ≠ .null := fun same => null (congrArg some same)
      rw [optional?_of_set set] at given
      obtain ⟨value, evaluated, rfl⟩ := Option.map_eq_some_iff.mp given
      exact .inr ⟨tree, value, rfl, set, evaluated, rfl⟩
  · rintro (⟨unset, rfl⟩ | ⟨tree, value, rfl, set, evaluated, rfl⟩)
    · exact optional?_of_unset unset
    · rw [optional?_of_set set, evaluated]
      rfl

end Json.Tree

namespace Vault

/-- The body has this under `data`, null being taken for nothing. -/
inductive Carries (body : Bytes) : Option Json → Prop
  | nothing {member : Option Tree} (found : member? "data" body = some member) (unset : Tree.IsUnset member) :
      Carries body none
  | value {tree : Tree} {value : Json} (found : member? "data" body = some (some tree)) (set : tree ≠ .null)
      (evaluated : valueBelow? 1 tree = some value) : Carries body (some value)

/-- The body lists these messages, or is a record without a list of them. -/
inductive Lists (body : Bytes) : List String → Prop
  | nothing (found : member? "errors" body = some none) : Lists body []
  | listed {items : List Tree} {texts : List String} (found : member? "errors" body = some (some (.array items)))
      (read : items.mapM text? = some texts) : Lists body texts

/-- The body has this under `version`, among the options below `data`. -/
inductive Reports (body : Bytes) : Option Json → Prop
  | noData {member : Option Tree} (found : member? "data" body = some member) (unset : Tree.IsUnset member) :
      Reports body none
  | noOptions {tree : Tree} {member : Option Tree} (found : member? "data" body = some (some tree))
      (options : tree.field? "options" = some member) (unset : Tree.IsUnset member) : Reports body none
  | options {tree : Tree} {members : List (List Json.Piece × Tree)} {named : List (String × Json)}
      (found : member? "data" body = some (some tree))
      (options : tree.field? "options" = some (some (.object members)))
      (evaluated : valueBelow? 2 (.object members) = some (.object named)) : Reports body (lookup "version" named)

variable {body : Bytes}

theorem data?_eq_some_iff {data : Option Json} : data? body = some data ↔ Carries body data := by
  simp only [data?, Option.bind_eq_some_iff, Tree.optional?_eq_some_iff]
  constructor
  · rintro ⟨member, found, ⟨unset, rfl⟩ | ⟨tree, value, rfl, set, evaluated, rfl⟩⟩
    · exact .nothing found unset
    · exact .value found set evaluated
  · intro carries
    cases carries with
    | nothing found unset => exact ⟨_, found, .inl ⟨unset, rfl⟩⟩
    | value found set evaluated => exact ⟨_, found, .inr ⟨_, _, rfl, set, evaluated, rfl⟩⟩

theorem Lists.messages_eq {texts : List String} (lists : Lists body texts) : messages body = texts := by
  cases lists with
  | nothing found => simp [messages, found]
  | listed found read => simp [messages, found, read]

theorem messages_eq_nil (unlisted : ∀ texts, ¬ Lists body texts) : messages body = [] := by
  unfold messages
  split
  · rename_i items found
    cases read : items.mapM text? with
    | none => rfl
    | some texts => exact absurd (.listed found read) (unlisted texts)
  · rfl

theorem messages_eq_iff {texts : List String} :
    messages body = texts ↔ Lists body texts ∨ texts = [] ∧ ∀ texts, ¬ Lists body texts := by
  constructor
  · rintro rfl
    by_cases listed : ∃ texts, Lists body texts
    · obtain ⟨texts, lists⟩ := listed
      rw [lists.messages_eq]
      exact .inl lists
    · have unlisted := not_exists.mp listed
      exact .inr ⟨messages_eq_nil unlisted, unlisted⟩
  · rintro (lists | ⟨rfl, unlisted⟩)
    · exact lists.messages_eq
    · exact messages_eq_nil unlisted

theorem valueBelow?_object {below : Nat} {members : List (List Json.Piece × Tree)} {value : Json}
    (evaluated : valueBelow? below (.object members) = some value) : ∃ named, value = .object named := by
  simp only [valueBelow?, Tree.toJson?] at evaluated
  split at evaluated
  · cases evaluated
  · obtain ⟨named, -, rfl⟩ := Option.map_eq_some_iff.mp evaluated
    exact ⟨named, rfl⟩

theorem options?_eq_some_iff {tree : Tree} {options : Json} :
    options? tree = some options ↔ ∃ members named, tree = .object members ∧
      valueBelow? 2 (.object members) = some (.object named) ∧ options = .object named := by
  constructor
  · intro read
    cases tree with
    | object members =>
      obtain ⟨named, rfl⟩ := valueBelow?_object read
      exact ⟨members, named, rfl, read, rfl⟩
    | _ => cases read
  · rintro ⟨members, named, rfl, evaluated, rfl⟩
    exact evaluated

def versionOf (options : Option Json) : Option Json := options.bind (·.member? "version")

theorem mountOptions?_eq_some_iff {options : Option Json} :
    mountOptions? body = some options ↔
      (∃ member, member? "data" body = some member ∧ Tree.IsUnset member ∧ options = none) ∨
      ∃ tree member, member? "data" body = some (some tree) ∧ tree.field? "options" = some member ∧
        Tree.optional? options? member = some options := by
  simp only [mountOptions?, Option.bind_eq_bind, Option.bind_eq_some_iff, Tree.optional?_eq_some_iff]
  constructor
  · rintro ⟨_, ⟨member, found, ⟨unset, rfl⟩ | ⟨tree, value, rfl, -, field, rfl⟩⟩, read⟩
    · cases read
      exact .inl ⟨member, found, unset, rfl⟩
    · exact .inr ⟨tree, value, found, field, Tree.optional?_eq_some_iff.mp read⟩
  · rintro (⟨member, found, unset, rfl⟩ | ⟨tree, member, found, field, read⟩)
    · exact ⟨none, ⟨member, found, .inl ⟨unset, rfl⟩⟩, rfl⟩
    · refine ⟨some member, ⟨some tree, found, .inr ⟨tree, member, rfl, ?_, field, rfl⟩⟩,
        Tree.optional?_eq_some_iff.mpr read⟩
      rintro rfl
      cases field

theorem reports_iff {version : Option Json} :
    Reports body version ↔ ∃ options, mountOptions? body = some options ∧ versionOf options = version := by
  simp only [mountOptions?_eq_some_iff, Tree.optional?_eq_some_iff, options?_eq_some_iff]
  constructor
  · intro reports
    cases reports with
    | noData found unset => exact ⟨none, .inl ⟨_, found, unset, rfl⟩, rfl⟩
    | noOptions found options unset => exact ⟨none, .inr ⟨_, _, found, options, .inl ⟨unset, rfl⟩⟩, rfl⟩
    | @options tree members named found options evaluated =>
      exact ⟨some (.object named), .inr ⟨tree, _, found, options,
        .inr ⟨_, _, rfl, Tree.noConfusion, ⟨members, named, rfl, evaluated, rfl⟩, rfl⟩⟩, rfl⟩
  · rintro ⟨options, ⟨member, found, unset, rfl⟩ | ⟨tree, member, found, field, read⟩, rfl⟩
    · exact .noData found unset
    · rcases read with ⟨unset, rfl⟩ | ⟨_, _, rfl, -, ⟨members, named, rfl, evaluated, rfl⟩, rfl⟩
      · exact .noOptions found field unset
      · exact .options found field evaluated

theorem unsuccessful_of_missing {r : Http.Response} (missing : r.status = 404) : r.isSuccess = false := by
  simp [Http.Response.isSuccess, missing]

/-- What a question comes to when the last answer to it is read in this way. -/
def reply {α : Type} (read : Http.Response → Except StoreError α) :
    Except TransportError Http.Response → Except StoreError α
  | .ok r => read r
  | .error e => .error (.transport e)

theorem Client.query_answer {ω α : Type} (c : Client) (o : Http.Outside ω) (path : String)
    (read : Http.Response → Except StoreError α) (s : State ω) :
    (c.query o path read s).answer = reply read (c.ask o .get path none s).1 := by
  unfold query
  obtain ⟨answer, s⟩ := c.ask o .get path none s
  cases answer <;> rfl

end Vault

end SecretTemplate
