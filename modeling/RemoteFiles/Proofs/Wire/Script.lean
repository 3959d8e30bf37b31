import RemoteFiles.Proofs.Wire.Canonical

/-!
# Decoders, step by step

A decoder is a function, and a function does not say what it went through on its way. A `Script`
does: it takes bytes, or looks at the cursor, and goes on with what it has found, until it has a
value or a failure. What is said of all scripts is said of every decoder that is the run of one
(`Scripted`), at every step.

* `Reaches.took` -- wherever a run has got to, the bytes that it has taken stood in front of those
  that are left;
* `reaches_ending`, `Reaches.run_eq` -- the steps are those of the run, and all of them;
* `Place.take_eq` -- so a request for bytes is answered from the input at the position, or refused;
* `takes_of_run` -- a script that never looks at the cursor reads alike whatever is left, and runs
  out if not all that it takes is there.
-/

namespace RemoteFiles

namespace Wire

/-! ## 1. Scripts -/

/-- What a decoder does. Some decoders look at more than the bytes that they take: at how many are
    left, or at whether a digest is expected. -/
inductive Script (looks : Bool) (α : Type) where
  | answer (value : α)
  | stop (malformed : Malformed)
  | take (n : Nat) (next : { bytes : Bytes // bytes.length = n } → Script looks α)
  | look (h : looks = true) (next : Cursor → Script looks α)

namespace Script

variable {looks : Bool} {α β : Type}

/-- The decoder that does it. -/
def run : Script looks α → Decoder α
  | answer value => pure value
  | stop malformed => throw malformed
  | take n next => Decoder.takeExactly n >>= fun bytes => (next bytes).run
  | look _ next => get >>= fun cursor => (next cursor).run

/-- One script and then another. -/
def andThen : Script looks α → (α → Script looks β) → Script looks β
  | answer value, following => following value
  | stop malformed, _ => stop malformed
  | take n next, following => take n fun bytes => (next bytes).andThen following
  | look h next, following => look h fun cursor => (next cursor).andThen following

/-- **Scripts in a row run in a row.** -/
theorem run_andThen (script : Script looks α) (following : α → Script looks β) :
    (script.andThen following).run = script.run >>= fun a => (following a).run := by
  induction script with
  | answer value => rfl
  | stop malformed => rfl
  | take n next ih =>
    simp only [andThen, run, ih, bind_assoc]
  | look h next ih =>
    simp only [andThen, run, ih, bind_assoc]

end Script

/-- The decoder is the run of a script. -/
def Scripted {α : Type} (looks : Bool) (x : Decoder α) : Prop :=
  ∃ script : Script looks α, script.run = x

section Scripted

variable {looks : Bool} {α β : Type}

theorem scripted_pure (value : α) : Scripted looks (pure value) := ⟨.answer value, rfl⟩

theorem scripted_throw (malformed : Malformed) : Scripted looks (throw malformed : Decoder α) :=
  ⟨.stop malformed, rfl⟩

/-- **What is made of scripts is a script.** -/
theorem Scripted.bind {x : Decoder α} {f : α → Decoder β} (hx : Scripted looks x)
    (hf : ∀ a, Scripted looks (f a)) : Scripted looks (x >>= f) := by
  obtain ⟨script, rfl⟩ := hx
  refine ⟨script.andThen fun a => (hf a).choose, ?_⟩
  rw [Script.run_andThen]
  exact congrArg (script.run >>= ·) (funext fun a => (hf a).choose_spec)

theorem Scripted.map {x : Decoder α} (hx : Scripted looks x) (f : α → β) :
    Scripted looks (x >>= fun a => pure (f a)) :=
  hx.bind fun a => scripted_pure (f a)

theorem scripted_takeExactly (n : Nat) : Scripted looks (Decoder.takeExactly n) :=
  ⟨.take n .answer, bind_pure _⟩

theorem scripted_take (n : Nat) : Scripted looks (Decoder.take n) :=
  (scripted_takeExactly n).map Subtype.val

theorem scripted_number (width : Nat) : Scripted looks (Decoder.number width) :=
  (scripted_take width).map Bytes.ofBigEndian

theorem scripted_get : Scripted true (get : Decoder Cursor) := ⟨.look rfl .answer, bind_pure _⟩

theorem scripted_remaining : Scripted true Decoder.remaining :=
  scripted_get.map fun cursor => cursor.rest.length

theorem scripted_takeRest : Scripted true Decoder.takeRest :=
  scripted_remaining.bind scripted_take

end Scripted

/-! ## 2. Steps -/

section Steps

variable {looks : Bool} {α : Type}

/-- One step, with the bytes that it takes. -/
inductive Moves : Script looks α → Cursor → Bytes → Script looks α → Cursor → Prop where
  | take {n : Nat} {next : { bytes : Bytes // bytes.length = n } → Script looks α}
    {before after : Cursor} {bytes : { bytes : Bytes // bytes.length = n }}
    (h : Decoder.takeExactly n before = .ok bytes after) :
    Moves (.take n next) before bytes.val (next bytes) after
  | refused {n : Nat} {next : { bytes : Bytes // bytes.length = n } → Script looks α}
    {before after : Cursor} {malformed : Malformed}
    (h : Decoder.takeExactly n before = .error malformed after) :
    Moves (.take n next) before [] (.stop malformed) after
  | look {h : looks = true} {next : Cursor → Script looks α} {cursor : Cursor} :
    Moves (.look h next) cursor [] (next cursor) cursor

/-- Any number of steps, with all the bytes that they take. -/
inductive Reaches : Script looks α → Cursor → Bytes → Script looks α → Cursor → Prop where
  | start (script : Script looks α) (cursor : Cursor) : Reaches script cursor [] script cursor
  | move {script middle ahead : Script looks α} {before between after : Cursor}
    {bytes more : Bytes} (hfirst : Moves script before bytes middle between)
    (hrest : Reaches middle between more ahead after) :
    Reaches script before (bytes ++ more) ahead after

variable {script ahead : Script looks α} {before after : Cursor} {taken : Bytes}

/-- A step moves the cursor over the bytes that it takes; one that is refused leaves it. -/
theorem Moves.took (h : Moves script before taken ahead after) : Took before taken after := by
  cases h with
  | take htake => exact takeExactly_eq_ok htake
  | refused htake =>
    obtain ⟨-, -, hsame⟩ := takeExactly_eq_error htake
    rw [hsame]
    exact Took.refl before
  | look => exact Took.refl before

/-- **Wherever a run has got to, the cursor has moved over what was taken.** -/
theorem Reaches.took (h : Reaches script before taken ahead after) : Took before taken after := by
  induction h with
  | start script cursor => exact Took.refl cursor
  | move hfirst _ ih => exact hfirst.took.trans ih

/-- What is ahead of a step comes to what was ahead before it. -/
theorem Moves.run_eq (h : Moves script before taken ahead after) :
    ahead.run after = script.run before := by
  cases h with
  | @take _ next _ _ _ htake => exact (Step.bind_of_ok htake fun bytes => (next bytes).run).symm
  | @refused _ next _ _ _ htake =>
    exact (Step.bind_of_error htake fun bytes => (next bytes).run).symm
  | look => rfl

/-- **No step leads away from the run.** -/
theorem Reaches.run_eq (h : Reaches script before taken ahead after) :
    ahead.run after = script.run before := by
  induction h with
  | start => rfl
  | move hfirst _ ih => exact ih.trans hfirst.run_eq

/-- The script that is over, with this result. -/
def Script.ending : EStateM.Result Malformed Cursor α → Script looks α
  | .ok value _ => .answer value
  | .error malformed _ => .stop malformed

/-- **The steps lead to the end of the run**, be that a value or a failure. -/
theorem reaches_ending (script : Script looks α) (before : Cursor) :
    ∃ taken, Reaches script before taken (.ending (script.run before))
      (Step.stateAfter (script.run before)) := by
  induction script generalizing before with
  | answer value => exact ⟨[], .start _ before⟩
  | stop malformed => exact ⟨[], .start _ before⟩
  | take n next ih =>
    cases htake : Decoder.takeExactly n before with
    | ok bytes between =>
      obtain ⟨more, hmore⟩ := ih bytes between
      rw [(Moves.take htake).run_eq] at hmore
      exact ⟨bytes.val ++ more, .move (.take htake) hmore⟩
    | error malformed between =>
      have hrun : (Script.take n next).run before = .error malformed between :=
        Step.bind_of_error htake _
      rw [hrun]
      exact ⟨[] ++ [], .move (.refused htake) (.start _ between)⟩
  | look h next ih =>
    obtain ⟨more, hmore⟩ := ih before before
    exact ⟨[] ++ more, .move .look hmore⟩

end Steps

/-! ## 3. The place in the input -/

/-- Where a run over an input is, once it has taken these bytes. -/
structure Place (input taken : Bytes) (cursor : Cursor) : Prop where
  split : taken ++ cursor.rest = input
  position_eq : cursor.position = taken.length
  total : cursor.position + cursor.rest.length = input.length

section Place

variable {input taken : Bytes} {cursor : Cursor} {expectDigest : Bool}

theorem Took.place (h : Took (.atFront input expectDigest) taken cursor) :
    Place input taken cursor := by
  have hinput : input = taken ++ cursor.rest := h.rest
  have hposition : cursor.position = taken.length := h.position.trans (Nat.zero_add _)
  refine ⟨hinput.symm, hposition, ?_⟩
  rw [hposition, hinput, List.length_append]

theorem Place.position_le (h : Place input taken cursor) : cursor.position ≤ input.length := by
  have htotal := h.total
  omega

/-- What is left is the input behind the position. -/
theorem Place.rest_eq (h : Place input taken cursor) :
    cursor.rest = input.drop cursor.position := by
  rw [h.position_eq, ← h.split, List.drop_left]

/-- **No request goes beyond the input**, however many bytes it is for: it is answered by those at
    the position if there are so many, and else it is refused and nothing moves. -/
theorem Place.take_eq (h : Place input taken cursor) (n : Nat) :
    Decoder.take n cursor =
      if cursor.position + n ≤ input.length then
        .ok ((input.drop cursor.position).take n)
          ⟨input.drop (cursor.position + n), cursor.position + n, cursor.expectDigest⟩
      else .error .ranOut cursor := by
  have htotal := h.total
  by_cases hfits : cursor.position + n ≤ input.length
  · have hle : n ≤ cursor.rest.length := by omega
    have htake : Decoder.takeExactly n cursor = .ok ⟨cursor.rest.take n, by simp [hle]⟩
        { cursor with rest := cursor.rest.drop n, position := cursor.position + n } := dif_pos hle
    rw [if_pos hfits, Decoder.take, Step.bind_of_ok htake]
    show EStateM.Result.ok (cursor.rest.take n) (Cursor.mk (cursor.rest.drop n) _ _) = _
    rw [h.rest_eq, List.drop_drop]
  · have hlt : ¬ n ≤ cursor.rest.length := by omega
    have htake : Decoder.takeExactly n cursor = .error .ranOut cursor := dif_neg hlt
    rw [if_neg hfits, Decoder.take, Step.bind_of_error htake]

end Place

/-! ## 4. Nothing but the bytes -/

/-- **A script that does not look at the cursor reads alike whatever is left.** By induction on the
    script: the first bytes that it takes decide how it goes on. -/
theorem takes_of_run {α : Type} {script : Script false α} {before after : Cursor} {value : α}
    (h : script.run before = .ok value after) :
    ∃ bytes, Took before bytes after ∧ Takes script.run bytes value := by
  induction script generalizing before with
  | answer found =>
    cases h
    exact ⟨[], Took.refl _, takes_pure _⟩
  | stop malformed => cases h
  | take n next ih =>
    obtain ⟨front, between, hfront, hnext⟩ := Step.bind_eq_ok_iff.mp h
    obtain ⟨back, htook, htakes⟩ := ih front hnext
    exact ⟨front.val ++ back, (takeExactly_eq_ok hfront).trans htook,
      (takes_takeExactly front.property).bind htakes⟩
  | look hlooks _ _ => cases hlooks

end Wire

end RemoteFiles
