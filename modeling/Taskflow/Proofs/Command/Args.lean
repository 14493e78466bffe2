import Taskflow.Command.Args
/-!
Reading argument lists that are all positional.
-/

namespace Taskflow.Command

namespace Grammar

variable (g : Grammar)

/-- One argument taken as positional, then the rest read. -/
theorem walk_added {fuel : Nat} (ih : ∀ (b : Bool) (args : List String) (st st' : Reading.State),
      g.walk fuel b args st = some (some st') →
      st'.positionals.length ≤ st.positionals.length + args.length ∧
      (st'.positionals.length = st.positionals.length + args.length →
        st' = { st with positionals := st.positionals ++ args }))
    (b : Bool) (a : String) (rest : List String) (st st' : Reading.State)
    (h : g.walk fuel b rest { st with positionals := st.positionals ++ [a] } = some (some st')) :
    st'.positionals.length ≤ st.positionals.length + (a :: rest).length ∧
      (st'.positionals.length = st.positionals.length + (a :: rest).length →
        st' = { st with positionals := st.positionals ++ a :: rest }) := by
  obtain ⟨hle, heq⟩ := ih b rest _ st' h
  simp only [List.length_append, List.length_cons, List.length_nil] at hle heq ⊢
  refine ⟨by omega, fun hlen => ?_⟩
  rw [heq (by omega)]
  simp

/-- A reading adds at most one positional argument per argument, and adds one for each only
when it takes every argument as positional. -/
theorem walk_positionals : ∀ (fuel : Nat) (b : Bool) (args : List String) (st st' : Reading.State),
    g.walk fuel b args st = some (some st') →
      st'.positionals.length ≤ st.positionals.length + args.length ∧
      (st'.positionals.length = st.positionals.length + args.length →
        st' = { st with positionals := st.positionals ++ args })
  | 0, _, args, st, st', h => by
    simp only [walk, Option.some.injEq] at h
    subst h
    refine ⟨by omega, fun hlen => ?_⟩
    have : args = [] := List.eq_nil_of_length_eq_zero (by omega)
    subst this
    simp
  | fuel + 1, b, [], st, st', h => by
    simp only [walk, Option.some.injEq] at h
    subst h
    simp
  | fuel + 1, true, a :: rest, st, st', h => by
    simp only [walk] at h
    exact walk_added g (walk_positionals fuel) true a rest st st' h
  | fuel + 1, false, a :: rest, st, st', h => by
    -- every argument that is not taken as positional leaves the rest to add at most its own
    have strict : ∀ b' rest' (st'' : Reading.State), g.walk fuel b' rest' st'' = some (some st') →
        rest'.length ≤ rest.length → st''.positionals = st.positionals →
        st'.positionals.length ≤ st.positionals.length + (a :: rest).length ∧
        (st'.positionals.length = st.positionals.length + (a :: rest).length →
          st' = { st with positionals := st.positionals ++ a :: rest }) := by
      intro b' rest' st'' hw hr hp
      have hle := (walk_positionals fuel b' rest' st'' st' hw).1
      rw [hp] at hle
      simp only [List.length_cons]
      exact ⟨by omega, fun hlen => by omega⟩
    simp only [walk] at h
    split at h
    · exact strict true rest st h (Nat.le_refl _) rfl
    · split at h
      · exact walk_added g (walk_positionals fuel) false a rest st st' h
      · cases h
      · split at h <;> cases h
      · exact strict false rest _ h (Nat.le_refl _) rfl
      · cases h
      · -- an option: a flag, or one with its value in the argument or the next one
        split at h
        · split at h
          · cases h
          · exact strict false rest _ h (Nat.le_refl _) rfl
        · split at h
          · simp only [Option.bind_eq_bind, Option.bind_eq_some_iff] at h
            obtain ⟨_, -, h⟩ := h
            exact strict false rest _ h (Nat.le_refl _) rfl
          · split at h
            · split at h
              · simp only [Option.bind_eq_bind, Option.bind_eq_some_iff] at h
                obtain ⟨_, -, h⟩ := h
                exact strict false _ _ h (by simp) rfl
              · cases h
            · cases h

/-- A reading that succeeds on as many arguments as the grammar has positional names gives those
names the arguments, in order, and every option its default. -/
theorem parse_positionals {args : List String} {vs : List (String × Given)}
    (h : g.parse args = .parsed vs) (hlen : args.length = g.positionals.length) :
    vs = g.positionals.zip (args.map .text) ++ g.options.map fun o =>
      (o.dest, if o.takesValue then o.default else .flag false) := by
  unfold parse at h
  split at h
  · cases h
  · cases h
  · next st' hw =>
    split at h
    · cases h
    · next hcount =>
      have hpos : st'.positionals.length = args.length := by
        simp only [Bool.or_eq_true, bne_iff_ne, ne_eq, not_or, Decidable.not_not] at hcount
        omega
      -- all arguments were positional, so no option was met
      have hst : st' = { positionals := args } := by
        simpa using (g.walk_positionals _ _ _ _ _ hw).2 (by simpa using hpos)
      subst hst
      split at h
      · cases h
      · cases h
        simp

end Grammar

end Taskflow.Command
