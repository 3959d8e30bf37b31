import RemoteFiles.Client

/-!
# Steps, one at a time

The client, the shell, the disk, the encoders and the decoders are all steps of one kind: a function
from a state to a value or a failure, and a state in either case. This file says what two steps do
one after the other (`bind_apply`) and takes a composition apart that has been successful
(`bind_eq_ok_iff`). `Parallel` compares two steps that start in related states, and follows them
through a composition (`Parallel.bind`). Beside them stand the steps of the client, each with its
effect in one equation; no later file opens their definitions. `Answers` says of a step that all it
does with the disk is to ask, and `Leaves` that it does not change it.
-/

namespace RemoteFiles

namespace Step

variable {ε σ α β : Type}

/-! ## 1. Steps of any kind -/

theorem bind_apply (x : EStateM ε σ α) (f : α → EStateM ε σ β) (s : σ) :
    (x >>= f) s =
      match x s with
      | .ok a t => f a t
      | .error e t => .error e t := rfl

@[simp] theorem pure_apply (a : α) (s : σ) : (pure a : EStateM ε σ α) s = .ok a s := rfl

@[simp] theorem throw_apply (e : ε) (s : σ) : (throw e : EStateM ε σ α) s = .error e s := rfl

@[simp] theorem get_apply (s : σ) : (get : EStateM ε σ σ) s = .ok s s := rfl

@[simp] theorem modify_apply (f : σ → σ) (s : σ) :
    (modify f : EStateM ε σ Unit) s = .ok () (f s) := rfl

theorem bind_of_ok {x : EStateM ε σ α} {s t : σ} {a : α} (h : x s = .ok a t)
    (f : α → EStateM ε σ β) : (x >>= f) s = f a t := by
  rw [bind_apply, h]

theorem bind_of_error {x : EStateM ε σ α} {s t : σ} {e : ε} (h : x s = .error e t)
    (f : α → EStateM ε σ β) : (x >>= f) s = .error e t := by
  rw [bind_apply, h]

/-- **A composition is successful if both steps are**, the second from where the first ended. -/
theorem bind_eq_ok_iff {x : EStateM ε σ α} {f : α → EStateM ε σ β} {s u : σ} {b : β} :
    (x >>= f) s = .ok b u ↔ ∃ a t, x s = .ok a t ∧ f a t = .ok b u := by
  rw [bind_apply]
  cases x s with
  | ok a t =>
    refine ⟨fun h => ⟨a, t, rfl, h⟩, ?_⟩
    rintro ⟨_, _, ⟨⟩, h⟩
    exact h
  | error e t => simp

/-- The same for results alone, without a state. -/
theorem result_bind_eq_ok_iff {x : Except ε α} {f : α → Except ε β} {b : β} :
    (x >>= f) = .ok b ↔ ∃ a, x = .ok a ∧ f a = .ok b := by
  cases x with
  | ok a =>
    refine ⟨fun h => ⟨a, rfl, h⟩, ?_⟩
    rintro ⟨_, ⟨⟩, h⟩
    exact h
  | error e =>
    constructor
    · intro h
      cases h
    · rintro ⟨_, ⟨⟩, -⟩

theorem result_bind_eq_error_iff {x : Except ε α} {f : α → Except ε β} {e : ε} :
    (x >>= f) = .error e ↔ x = .error e ∨ ∃ a, x = .ok a ∧ f a = .error e := by
  cases x with
  | ok a =>
    constructor
    · intro h
      exact .inr ⟨a, rfl, h⟩
    · rintro (⟨⟨⟩⟩ | ⟨_, ⟨⟩, h⟩)
      exact h
  | error e' =>
    constructor
    · rintro ⟨⟩
      exact .inl rfl
    · rintro (⟨⟨⟩⟩ | ⟨_, ⟨⟩, -⟩)
      rfl

/-- The state in which a step ends, be it with a value or with a failure. -/
def stateAfter : EStateM.Result ε σ α → σ
  | .ok _ s => s
  | .error _ s => s

@[simp] theorem stateAfter_ok (a : α) (s : σ) :
    stateAfter (.ok a s : EStateM.Result ε σ α) = s := rfl

@[simp] theorem stateAfter_error (e : ε) (s : σ) :
    stateAfter (.error e s : EStateM.Result ε σ α) = s := rfl

/-- What a step answers, be it a value or a failure. -/
def outcome : EStateM.Result ε σ α → Except ε α
  | .ok a _ => .ok a
  | .error e _ => .error e

@[simp] theorem outcome_ok (a : α) (s : σ) :
    outcome (.ok a s : EStateM.Result ε σ α) = .ok a := rfl

@[simp] theorem outcome_error (e : ε) (s : σ) :
    outcome (.error e s : EStateM.Result ε σ α) = .error e := rfl

theorem exists_of_outcome {r : EStateM.Result ε σ α} {a : α} (h : outcome r = .ok a) :
    ∃ s, r = .ok a s := by
  cases r with
  | ok b s =>
    cases h
    exact ⟨s, rfl⟩
  | error e s => cases h

/-! ## 2. Two runs beside each other -/

/-- Two runs end alike: with values that are related, or with the same failure; and in states that
    are related. -/
inductive Alike (values : α → α → Prop) (states : σ → σ → Prop) :
    EStateM.Result ε σ α → EStateM.Result ε σ α → Prop where
  | ok {a b : α} {s t : σ} (hvalues : values a b) (hstates : states s t) :
    Alike values states (.ok a s) (.ok b t)
  | error {e : ε} {s t : σ} (hstates : states s t) :
    Alike values states (.error e s) (.error e t)

/-- Two steps that end alike wherever they start alike. -/
def Parallel (values : α → α → Prop) (states : σ → σ → Prop) (x y : EStateM ε σ α) : Prop :=
  ∀ s t, states s t → Alike values states (x s) (y t)

section Parallel

variable {values : α → α → Prop} {states : σ → σ → Prop} {x y : EStateM ε σ α}

theorem Alike.mono {values' : α → α → Prop} {r r' : EStateM.Result ε σ α}
    (h : Alike values states r r') (himp : ∀ a b, values a b → values' a b) :
    Alike values' states r r' := by
  cases h with
  | ok hvalues hstates => exact .ok (himp _ _ hvalues) hstates
  | error hstates => exact .error hstates

/-- **Steps in a row are parallel if their parts are.** -/
theorem Parallel.bind {values' : β → β → Prop} {f g : α → EStateM ε σ β}
    (h : Parallel values states x y)
    (hnext : ∀ a b, values a b → Parallel values' states (f a) (g b)) :
    Parallel values' states (x >>= f) (y >>= g) := by
  intro s t hst
  have hends := h s t hst
  rw [bind_apply, bind_apply]
  generalize x s = r at hends ⊢
  generalize y t = r' at hends ⊢
  cases hends with
  | ok hvalues hstates => exact hnext _ _ hvalues _ _ hstates
  | error hstates => exact .error hstates

theorem Parallel.mono {values' : α → α → Prop} (h : Parallel values states x y)
    (himp : ∀ a b, values a b → values' a b) : Parallel values' states x y :=
  fun s t hst => (h s t hst).mono himp

theorem parallel_pure {a b : α} (h : values a b) :
    Parallel values states (pure a : EStateM ε σ α) (pure b) :=
  fun _ _ hst => .ok h hst

theorem parallel_throw (e : ε) : Parallel values states (throw e : EStateM ε σ α) (throw e) :=
  fun _ _ hst => .error hst

theorem parallel_get : Parallel states states (get : EStateM ε σ σ) get :=
  fun _ _ hst => .ok hst hst

theorem parallel_modify {f g : σ → σ} (h : ∀ s t, states s t → states (f s) (g t)) :
    Parallel Eq states (modify f : EStateM ε σ Unit) (modify g) :=
  fun s t hst => .ok rfl (h s t hst)

theorem Parallel.of_ok (h : Parallel values Eq x y) {s t : σ} {a : α} (hx : x s = .ok a t) :
    ∃ b, y s = .ok b t ∧ values a b := by
  have hends := h s s rfl
  rw [hx] at hends
  generalize y s = r at hends
  cases hends with
  | @ok _ b _ _ hvalues hstates => exact ⟨b, by rw [hstates], hvalues⟩

theorem Parallel.of_error (h : Parallel values Eq x y) {s t : σ} {e : ε} (hx : x s = .error e t) :
    y s = .error e t := by
  have hends := h s s rfl
  rw [hx] at hends
  generalize y s = r at hends
  cases hends with
  | error hstates => rw [hstates]

/-- A step beside itself. -/
theorem parallel_same (x : EStateM ε σ α) : Parallel Eq Eq x x := by
  intro s t hst
  obtain rfl := hst
  cases x s with
  | ok a after => exact .ok rfl rfl
  | error e after => exact .error rfl

/-- What comes behind the same step. -/
theorem parallel_after (x : EStateM ε σ α) {values' : β → β → Prop} {f g : α → EStateM ε σ β}
    (h : ∀ a, Parallel values' Eq (f a) (g a)) : Parallel values' Eq (x >>= f) (x >>= g) := by
  refine (parallel_same x).bind ?_
  intro a b hab
  obtain rfl := hab
  exact h a

end Parallel

end Step

/-! ## 3. Steps of the client -/

namespace ClientM

variable {ε α β : Type}

@[simp] theorem tell_apply (records : Log) (client : Client) :
    (tell records : ClientM ε Unit) client = .ok () { client with log := client.log ++ records } :=
  rfl

@[simp] theorem say_apply (level : Log.Level) (text : String) (client : Client) :
    (say level text : ClientM ε Unit) client =
      .ok () { client with log := client.log ++ [⟨level, text⟩] } := rfl

@[simp] theorem print_apply (text : String) (client : Client) :
    (print text : ClientM ε Unit) client =
      .ok () { client with console := client.console ++ text } := rfl

@[simp] theorem require_ok (a : α) (client : Client) :
    (require (.ok a) : ClientM ε α) client = .ok a client := rfl

@[simp] theorem require_error (e : ε) (client : Client) :
    (require (.error e) : ClientM ε α) client = .error e client := rfl

theorem require_eq_ok_iff {result : Except ε α} {client after : Client} {a : α} :
    require result client = .ok a after ↔ result = .ok a ∧ after = client := by
  cases result with
  | ok b => simp [eq_comm]
  | error e => simp

@[simp] theorem encoded_ok (a : α) (client : Client) :
    encoded (.ok a) client = .ok a client := rfl

@[simp] theorem encoded_error (oversize : Wire.Oversize) (client : Client) :
    (encoded (.error oversize) : ClientM Error α) client =
      .error oversize.toError { client with log := client.log ++ oversize.notice } := rfl

theorem encoded_eq_ok_iff {result : Except Wire.Oversize α} {client after : Client} {a : α} :
    encoded result client = .ok a after ↔ result = .ok a ∧ after = client := by
  cases result with
  | ok b => simp [eq_comm]
  | error oversize => simp

theorem require_bind_eq_ok_iff {result : Except ε α} {f : α → ClientM ε β} {client after : Client}
    {b : β} :
    (require result >>= f) client = .ok b after ↔
      ∃ a, result = .ok a ∧ f a client = .ok b after := by
  cases result with
  | ok a => simp [Step.bind_of_ok (require_ok a client)]
  | error e => simp [Step.bind_of_error (require_error e client)]

theorem ask_bind_eq_ok_iff {question : Disk → Except ε α} {f : α → ClientM ε β}
    {client after : Client} {b : β} :
    (ask question >>= f) client = .ok b after ↔
      ∃ a, question client.disk = .ok a ∧ f a client = .ok b after :=
  require_bind_eq_ok_iff

theorem encoded_bind_eq_ok_iff {result : Except Wire.Oversize α} {f : α → ClientM Error β}
    {client after : Client} {b : β} :
    (encoded result >>= f) client = .ok b after ↔
      ∃ a, result = .ok a ∧ f a client = .ok b after := by
  cases result with
  | ok a => simp [Step.bind_of_ok (encoded_ok a client)]
  | error oversize => simp [Step.bind_of_error (encoded_error oversize client)]

@[simp] theorem say_bind (level : Log.Level) (text : String) (x : ClientM ε α) (client : Client) :
    (say level text >>= fun _ => x) client =
      x { client with log := client.log ++ [⟨level, text⟩] } := rfl

theorem mapError_apply {ε' : Type} (f : ε → ε') (x : ClientM ε α) (client : Client) :
    mapError f x client =
      match x client with
      | .ok a after => .ok a after
      | .error e after => .error (f e) after := by
  unfold mapError EStateM.adaptExcept
  cases x client <;> rfl

theorem mapError_eq_ok_iff {ε' : Type} {f : ε → ε'} {x : ClientM ε α} {client after : Client}
    {a : α} : mapError f x client = .ok a after ↔ x client = .ok a after := by
  rw [mapError_apply]
  cases x client <;> simp

theorem parallel_mapError {ε' : Type} {values : α → α → Prop} {x y : ClientM ε α}
    (h : Step.Parallel values Eq x y) (f : ε → ε') :
    Step.Parallel values Eq (mapError f x) (mapError f y) := by
  intro client client' hsame
  have hends := h client client' hsame
  rw [mapError_apply, mapError_apply]
  generalize x client = r at hends ⊢
  generalize y client' = r' at hends ⊢
  cases hends with
  | ok hvalues hstates => exact .ok hvalues hstates
  | error hstates => exact .error hstates

/-! ## 4. Steps that only ask the disk -/

/-- The step leaves the disk alone, and its outcome is the disk's answer to a question. -/
def Answers (x : ClientM ε α) (question : Disk → Except ε α) : Prop :=
  ∀ client, Step.outcome (x client) = question client.disk ∧
    (Step.stateAfter (x client)).disk = client.disk

theorem answers_require (result : Except ε α) :
    Answers (require result) fun _ => result := by
  intro client
  cases result with
  | ok a => exact ⟨rfl, rfl⟩
  | error e => exact ⟨rfl, rfl⟩

theorem answers_pure (a : α) : Answers (pure a : ClientM ε α) fun _ => .ok a :=
  answers_require (.ok a)

theorem answers_ask (question : Disk → Except ε α) : Answers (ask question) question :=
  fun client => answers_require (question client.disk) client

theorem answers_say (level : Log.Level) (text : String) :
    Answers (say level text : ClientM ε Unit) fun _ => .ok () :=
  fun _ => ⟨rfl, rfl⟩

theorem answers_encoded (result : Except Wire.Oversize α) :
    Answers (encoded result) fun _ => result.mapError Wire.Oversize.toError := by
  intro client
  cases result with
  | ok a => exact ⟨rfl, rfl⟩
  | error oversize => exact ⟨rfl, rfl⟩

theorem Answers.congr {x : ClientM ε α} {question question' : Disk → Except ε α}
    (h : Answers x question) (heq : ∀ disk, question disk = question' disk) :
    Answers x question' := by
  intro client
  rw [← heq]
  exact h client

/-- **Questions in a row**: the second is asked of the same disk. -/
theorem Answers.bind {x : ClientM ε α} {f : α → ClientM ε β} {question : Disk → Except ε α}
    {next : α → Disk → Except ε β} (hx : Answers x question) (hf : ∀ a, Answers (f a) (next a)) :
    Answers (x >>= f) fun disk => question disk >>= fun a => next a disk := by
  intro client
  obtain ⟨houtcome, hdisk⟩ := hx client
  rw [Step.bind_apply]
  simp only [← houtcome]
  cases hstep : x client with
  | error e after =>
    rw [hstep] at hdisk
    exact ⟨rfl, hdisk⟩
  | ok a after =>
    rw [hstep] at hdisk
    obtain ⟨hnext, hafter⟩ := hf a after
    simp only [Step.stateAfter_ok] at hdisk
    rw [hdisk] at hnext hafter
    exact ⟨hnext, hafter⟩

/-! ## 5. Steps that leave the disk alone, and steps that change it -/

/-- The step leaves the disk alone, whatever comes of it. -/
def Leaves (x : ClientM ε α) : Prop :=
  ∀ client, (Step.stateAfter (x client)).disk = client.disk

theorem Answers.leaves {x : ClientM ε α} {question : Disk → Except ε α} (h : Answers x question) :
    Leaves x :=
  fun client => (h client).2

theorem leaves_tell (records : Log) : Leaves (tell records : ClientM ε Unit) := fun _ => rfl

theorem leaves_print (text : String) : Leaves (print text : ClientM ε Unit) := fun _ => rfl

/-- **What comes behind a step and leaves the disk alone** makes no difference to the disk. -/
theorem disk_bind_of_leaves {x : ClientM ε α} {f : α → ClientM ε β} (hf : ∀ a, Leaves (f a))
    (client : Client) :
    (Step.stateAfter ((x >>= f) client)).disk = (Step.stateAfter (x client)).disk := by
  rw [Step.bind_apply]
  cases x client with
  | ok a after => exact hf a after
  | error e after => rfl

theorem Leaves.bind {x : ClientM ε α} {f : α → ClientM ε β} (hx : Leaves x)
    (hf : ∀ a, Leaves (f a)) : Leaves (x >>= f) := by
  intro client
  rw [disk_bind_of_leaves hf]
  exact hx client

theorem stateAfter_mapError {ε' : Type} (f : ε → ε') (x : ClientM ε α) (client : Client) :
    Step.stateAfter (mapError f x client) = Step.stateAfter (x client) := by
  rw [mapError_apply]
  cases x client <;> rfl

theorem change_apply (x : Disk.Change α) (client : Client) :
    change x client =
      match x client.disk with
      | .ok a disk => .ok a { client with disk := disk }
      | .error fault disk => .error fault { client with disk := disk } := rfl

/-- A change of the disk does to the disk of a client what it does to a disk. -/
theorem disk_change (x : Disk.Change α) (client : Client) :
    (Step.stateAfter (change x client)).disk = Step.stateAfter (x client.disk) := by
  rw [change_apply]
  cases x client.disk <;> rfl

end ClientM

end RemoteFiles
