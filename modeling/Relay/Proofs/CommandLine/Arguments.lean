import Mathlib.Data.List.Induction
import Relay.CommandLine

/-!
# The grammar of arguments

`readArguments_eq_ok_iff`: arguments are understood exactly if they are a sequence of items with at
most one request among them, and then they say what the items say.

An `Item` is one argument, or an option and the argument behind it.  What an argument means where an
item may start is one of six things (`means_meaning`), and reading takes one item after another off
the front (`readItems_item`), whatever the item's own value looks like.  So the items of a sequence
are followed one by one (`readItems_items`, `foldlM_take`); and wherever reading goes on there is an
item that it goes on behind (`exists_items`).
-/

namespace Relay.CommandLine

/-! ## Items -/

/-- The options that are a request by themselves. -/
inductive Flag where
  | shortHelp
  | help
  | shortVersion
  | version

namespace Flag

def name : Flag → Text
  | shortHelp => "-h".toList
  | help => "--help".toList
  | shortVersion => "-V".toList
  | version => "--version".toList

def request : Flag → Request
  | shortHelp => .help
  | help => .help
  | shortVersion => .version
  | version => .version

end Flag

/-- The options that are a request with the argument behind them. -/
inductive Valued where
  | run
  | runFile
  | parse

namespace Valued

def name : Valued → Text
  | run => "-c".toList
  | runFile => "-f".toList
  | parse => "--parse".toList

def request : Valued → Text → Request
  | run => .run
  | runFile => .runFile
  | parse => .parse

def missing : Valued → UsageError
  | run => .noCommand run.name
  | runFile => .noFile
  | parse => .noCommand parse.name

end Valued

def configOption : Text := "--config".toList

/-- What arguments are made of. -/
inductive Item where
  | config (path : Text)
  /-- The settings file in the same argument. -/
  | joined (path : Text)
  | flag (f : Flag)
  | valued (o : Valued) (value : Text)
  /-- A command without an option. -/
  | bare (command : Text) (h : command.head? ≠ some '-')

namespace Item

def arguments : Item → List Text
  | config path => [configOption, path]
  | joined path => [joinedConfig ++ path]
  | flag f => [f.name]
  | valued o value => [o.name, value]
  | bare command _ => [command]

def request? : Item → Option Request
  | config _ => none
  | joined _ => none
  | flag f => some f.request
  | valued o value => some (o.request value)
  | bare command _ => some (.run command)

def config? : Item → Option Text
  | config path => some path
  | joined path => some path
  | flag _ => none
  | valued _ _ => none
  | bare _ _ => none

end Item

def requests (items : List Item) : List Request := items.filterMap Item.request?

def configs (items : List Item) : List Text := items.filterMap Item.config?

/-- What items say: the first request and the last settings file. -/
def found (items : List Item) : Found :=
  { request := (requests items).head?, config := (configs items).getLast? }

theorem requests_concat (items : List Item) (i : Item) :
    requests (items ++ [i]) = requests items ++ i.request?.toList := by
  rw [requests, List.filterMap_append]
  cases hi : i.request? <;> simp [requests, hi]

theorem configs_concat (items : List Item) (i : Item) :
    configs (items ++ [i]) = configs items ++ i.config?.toList := by
  rw [configs, List.filterMap_append]
  cases hi : i.config? <;> simp [configs, hi]

theorem Item.request_or_config (i : Item) :
    (∃ r, i.request? = some r ∧ i.config? = none) ∨
      ∃ path, i.request? = none ∧ i.config? = some path := by
  cases i with
  | config path => exact .inr ⟨path, rfl, rfl⟩
  | joined path => exact .inr ⟨path, rfl, rfl⟩
  | flag f => exact .inl ⟨_, rfl, rfl⟩
  | valued o value => exact .inl ⟨_, rfl, rfl⟩
  | bare command h => exact .inl ⟨_, rfl, rfl⟩

/-! ## What an argument means -/

/-- The arguments that mean something where an item may start, and what they mean. -/
inductive Means : Text → Meaning → Prop where
  | joined (path : Text) : Means (joinedConfig ++ path) (.config path)
  | config : Means configOption .configFollows
  | flag (f : Flag) : Means f.name (.request f.request)
  | valued (o : Valued) : Means o.name (.requestFollows o.request o.missing)
  | bare {command : Text} (h : command.head? ≠ some '-') : Means command (.request (.run command))
  | unknown {a : Text} (h : a.head? = some '-') : Means a .unknown

theorem means_meaning (a : Text) : Means a (meaning a) := by
  have text : ∀ {s : String}, String.ofList a = s → a = s.toList := by
    rintro s rfl
    exact String.toList_ofList.symm
  unfold meaning
  split
  · rename_i h
    obtain ⟨path, rfl⟩ := List.isPrefixOf_iff_prefix.1 h
    rw [List.drop_left]
    exact .joined path
  · split
    case h_1 h => rw [text h]; exact .flag .shortHelp
    case h_2 h => rw [text h]; exact .flag .help
    case h_3 h => rw [text h]; exact .flag .shortVersion
    case h_4 h => rw [text h]; exact .flag .version
    case h_5 h => rw [text h]; exact .valued .run
    case h_6 h => rw [text h]; exact .valued .runFile
    case h_7 h => rw [text h]; exact .valued .parse
    case h_8 h => rw [text h]; exact .config
    case h_9 =>
      split
      · rename_i h
        exact .unknown h
      · rename_i h
        exact .bare h

theorem means_of_meaning {a : Text} {m : Meaning} (h : meaning a = m) : Means a m :=
  h ▸ means_meaning a

theorem meaning_joined (path : Text) : meaning (joinedConfig ++ path) = .config path := by
  unfold meaning
  rw [if_pos (List.isPrefixOf_iff_prefix.2 (List.prefix_append _ _)), List.drop_left]

theorem meaning_configOption : meaning configOption = .configFollows := by rfl

theorem meaning_flag (f : Flag) : meaning f.name = .request f.request := by
  cases f <;> rfl

theorem meaning_valued (o : Valued) : meaning o.name = .requestFollows o.request o.missing := by
  cases o <;> rfl

/-- Every option starts with a dash, so nothing else does what it does. -/
theorem meaning_bare {command : Text} (h : command.head? ≠ some '-') :
    meaning command = .request (.run command) := by
  generalize hm : meaning command = m
  cases means_of_meaning hm with
  | joined path => exact absurd rfl h
  | config => exact absurd rfl h
  | flag f => cases f <;> exact absurd rfl h
  | valued o => cases o <;> exact absurd rfl h
  | bare => rfl
  | unknown hdash => exact absurd hdash h

/-! ## Reading items -/

/-- Adds what an item says. -/
def Found.take (f : Found) (i : Item) : Except UsageError Found :=
  match i.request? with
  | some r => f.add r
  | none => .ok { f with config := i.config? }

theorem readItems_request {a : Text} {r : Request} (ha : meaning a = .request r) (f : Found)
    (rest : List Text) :
    readItems f (a :: rest) = (f.add r).bind fun f => readItems f rest := by
  rw [readItems.eq_def]
  dsimp only
  rw [ha]
  dsimp only
  cases f.add r <;> rfl

theorem readItems_item (f : Found) (i : Item) (rest : List Text) :
    readItems f (i.arguments ++ rest) = (f.take i).bind fun f => readItems f rest := by
  cases i with
  | config path =>
    show readItems f (configOption :: path :: rest) = _
    rw [readItems, meaning_configOption]
    rfl
  | joined path =>
    show readItems f ((joinedConfig ++ path) :: rest) = _
    rw [readItems.eq_def]
    dsimp only
    rw [meaning_joined]
    rfl
  | flag o => exact readItems_request (meaning_flag o) f rest
  | valued o value =>
    show readItems f (o.name :: value :: rest) = (f.add (o.request value)).bind _
    rw [readItems, meaning_valued]
    dsimp only
    cases f.add (o.request value) <;> rfl
  | bare command h => exact readItems_request (meaning_bare h) f rest

theorem readItems_items (f : Found) (items : List Item) :
    readItems f (items.flatMap Item.arguments) = items.foldlM Found.take f := by
  induction items generalizing f with
  | nil => rfl
  | cons i items ih =>
    rw [List.flatMap_cons, readItems_item, List.foldlM_cons]
    exact congrArg (Except.bind (f.take i)) (funext ih)

/-- What is read is made of items. -/
theorem exists_items {f f' : Found} {args : List Text} (h : readItems f args = .ok f') :
    ∃ items : List Item, items.flatMap Item.arguments = args := by
  -- one item more, in front of those of the arguments behind it
  have cons : ∀ {rest : List Text} (i : Item),
      (∃ items : List Item, items.flatMap Item.arguments = rest) →
        ∃ items : List Item, items.flatMap Item.arguments = i.arguments ++ rest := by
    rintro _ i ⟨items, rfl⟩
    exact ⟨i :: items, List.flatMap_cons⟩
  fun_induction readItems f args with
  | case1 => exact ⟨[], rfl⟩
  | case2 f a rest path ha ih =>
    cases means_of_meaning ha
    exact cons (.joined path) (ih h)
  | case3 f a ha path rest ih =>
    cases means_of_meaning ha
    exact cons (.config path) (ih h)
  | case5 f a rest r ha f₁ hadd ih =>
    cases means_of_meaning ha with
    | flag o => exact cons (.flag o) (ih h)
    | bare hbare => exact cons (.bare a hbare) (ih h)
  | case7 f a r missing ha value rest f₁ hadd ih =>
    cases means_of_meaning ha with
    | valued o => exact cons (.valued o value) (ih h)
  -- a missing value, a second request or an unknown option ends reading
  | case4 | case6 | case8 | case9 | case10 => cases h

/-! ## What items say -/

/-- After items with at most one request an item adds what it says, and a second request is an
error. -/
theorem take_found {items : List Item} (hone : (requests items).length ≤ 1) (i : Item) :
    (found items).take i =
      if (requests (items ++ [i])).length ≤ 1 then .ok (found (items ++ [i]))
      else .error .severalCommands := by
  unfold Found.take found
  rw [requests_concat, configs_concat]
  rcases i.request_or_config with ⟨r, hr, hc⟩ | ⟨path, hr, hc⟩
  · rw [hr, hc]
    cases hrequests : requests items with
    | nil => simp [Found.add]
    | cons r' rs => simp [Found.add]
  · rw [hr, hc]
    simp [hone]

/-- Items are read as what they say if there is at most one request among them. -/
theorem foldlM_take (items : List Item) :
    items.foldlM Found.take {} =
      if (requests items).length ≤ 1 then .ok (found items) else .error .severalCommands := by
  induction items using List.reverseRecOn with
  | nil => rfl
  | append_singleton items i ih =>
    rw [List.foldlM_append, ih]
    by_cases hone : (requests items).length ≤ 1
    · rw [if_pos hone, ← take_found hone]
      exact bind_pure ((found items).take i)
    · have hmany : ¬ (requests (items ++ [i])).length ≤ 1 := by
        rw [requests_concat, List.length_append]
        omega
      rw [if_neg hone, if_neg hmany]
      rfl

theorem readArguments_items (items : List Item) :
    readArguments (items.flatMap Item.arguments) =
      if (requests items).length ≤ 1 then
        .ok ⟨(requests items).head?.getD .help, (configs items).getLast?⟩
      else .error .severalCommands := by
  rw [readArguments, readItems_items, foldlM_take]
  split <;> rfl

/-- **The grammar of arguments.**  Arguments are understood exactly if they are those of items with
at most one request among them.  What is asked for is this request, or help without one, and the
settings file is the last that is named. -/
theorem readArguments_eq_ok_iff (args : List Text) (a : Arguments) :
    readArguments args = .ok a ↔
      ∃ items : List Item, items.flatMap Item.arguments = args ∧ (requests items).length ≤ 1 ∧
        a = { request := (requests items).head?.getD .help, config := (configs items).getLast? } := by
  constructor
  · intro h
    obtain ⟨items, rfl⟩ : ∃ items : List Item, items.flatMap Item.arguments = args := by
      cases hf : readItems {} args with
      | ok f => exact exists_items hf
      | error e =>
        rw [readArguments, hf] at h
        cases h
    rw [readArguments_items] at h
    split at h
    · rename_i hone
      cases h
      exact ⟨items, rfl, hone, rfl⟩
    · cases h
  · rintro ⟨items, rfl, hone, rfl⟩
    rw [readArguments_items, if_pos hone]

/-- Values that look like options. -/
example : readArguments ["--config".toList, "-c".toList, "-c".toList, "--help".toList,
    "--config=".toList] = .ok ⟨.run "--help".toList, some []⟩ := by
  decide +kernel

end Relay.CommandLine
