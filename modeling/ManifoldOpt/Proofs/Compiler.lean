import ManifoldOpt.Cache
import ManifoldOpt.Proofs.Cache
import ManifoldOpt.Session.Compile

set_option autoImplicit false

namespace ManifoldOpt

namespace Compiler

variable {κ φ γ ι ρ ε : Type}

inductive Command (φ : Type)
  | clear
  | request (f : φ)

inductive Reply (φ γ ε : Type)
  | cleared
  | handed (f : φ) (compiled : γ)
  | failed (f : φ) (e : ε)

namespace Reply

def isCleared : Reply φ γ ε → Bool
  | cleared => true
  | _ => false

def sinceClear (replies : List (Reply φ γ ε)) : List (Reply φ γ ε) :=
  replies.rtakeWhile fun reply => !reply.isCleared

variable {replies later : List (Reply φ γ ε)} {reply : Reply φ γ ε}

theorem sinceClear_concat_cleared : sinceClear (replies ++ [.cleared]) = [] :=
  List.rtakeWhile_concat_neg _ _ _ Bool.false_ne_true

theorem sinceClear_concat (unclear : reply.isCleared = false) :
    sinceClear (replies ++ [reply]) = sinceClear replies ++ [reply] :=
  List.rtakeWhile_concat_pos _ _ _ (by simp [unclear])

theorem sinceClear_append (unclear : .cleared ∉ later) :
    sinceClear (replies ++ later) = sinceClear replies ++ later := by
  induction later using List.reverseRecOn with
  | nil => rw [List.append_nil, List.append_nil]
  | append_singleton later reply ih =>
    rw [List.mem_append, not_or, List.mem_singleton] at unclear
    have kept : reply.isCleared = false := by
      cases reply with
      | cleared => exact absurd rfl unclear.2
      | handed | failed => rfl
    rw [← List.append_assoc, sinceClear_concat kept, ih unclear.1, List.append_assoc]

end Reply

open Reply

structure History (κ φ γ ε : Type) where
  cache : Cache κ γ
  replies : List (Reply φ γ ε) := []

variable [DecidableEq κ] (C : Compiler κ φ γ ι ρ ε)

def serve (h : History κ φ γ ε) : Command φ → History κ φ γ ε
  | .clear => ⟨h.cache.clear, h.replies ++ [.cleared]⟩
  | .request f =>
    match C.request h.cache f with
    | .ok (compiled, next) => ⟨next, h.replies ++ [.handed f compiled]⟩
    | .error e => ⟨h.cache, h.replies ++ [.failed f e]⟩

def history (capacity : ℤ) (commands : List (Command φ)) : History κ φ γ ε :=
  commands.foldl C.serve { cache := { capacity } }

def use? : Reply φ γ ε → Option (κ × γ)
  | .handed f compiled => some (C.key f, compiled)
  | _ => none

def uses (replies : List (Reply φ γ ε)) : List (κ × γ) := replies.filterMap C.use?

omit [DecidableEq κ] in
theorem uses_append (replies later : List (Reply φ γ ε)) :
    C.uses (replies ++ later) = C.uses replies ++ C.uses later := List.filterMap_append

def lastHanded (replies : List (Reply φ γ ε)) (key : κ) : Option γ :=
  (C.uses replies).reverse.lookup key

/-- The last `n` keys used since the last clearing, by last use: of the uses of one key, removing
duplicates leaves the last. -/
def recent (n : ℕ) (replies : List (Reply φ γ ε)) : List κ :=
  ((C.uses (sinceClear replies)).map Prod.fst).dedup.rtake n

variable {C}
variable {h : History κ φ γ ε} {capacity : ℤ} {f : φ} {compiled : γ} {next : Cache κ γ}

theorem serve_of_ok (served : C.request h.cache f = .ok (compiled, next)) :
    C.serve h (.request f) = ⟨next, h.replies ++ [.handed f compiled]⟩ := by
  simp only [serve, served]

theorem serve_of_error {e : ε} (failed : C.request h.cache f = .error e) :
    C.serve h (.request f) = ⟨h.cache, h.replies ++ [.failed f e]⟩ := by
  simp only [serve, failed]

theorem handed_of_request (served : C.request h.cache f = .ok (compiled, next)) :
    h.cache.fetch (C.key f) compiled = (compiled, next) ∧
      (h.cache.find? (C.key f) = some compiled ∨
        C.key f ∉ h.cache.keys ∧ C.compile f = .ok compiled) := by
  by_cases held : C.key f ∈ h.cache.keys
  · obtain ⟨value, found⟩ := Cache.exists_find? held
    rw [request, Cache.obtain_of_held found, Cache.fetch_of_held found] at served
    cases served
    exact ⟨Cache.fetch_of_held found, .inl found⟩
  · rw [request, Cache.obtain_of_unheld held] at served
    cases made : C.compile f with
    | error e =>
      rw [made] at served
      cases served
    | ok value =>
      rw [made] at served
      have handed : h.cache.fetch (C.key f) value = (compiled, next) := Except.ok.inj served
      rw [Cache.fetch_of_unheld held] at handed
      cases handed
      exact ⟨Cache.fetch_of_unheld held, .inr ⟨held, rfl⟩⟩

/-- The entries are the end of what a cache without a bound would hold since the last clearing. -/
def Faithful (C : Compiler κ φ γ ι ρ ε) (capacity : ℤ) (h : History κ φ γ ε) : Prop :=
  h.cache =
    ⟨capacity, (Cache.replay (C.uses (sinceClear h.replies))).rtake capacity.toNat⟩

theorem Faithful.serve (faithful : C.Faithful capacity h) (command : Command φ) :
    C.Faithful capacity (C.serve h command) := by
  have bound : h.cache.capacity = capacity := congrArg Cache.capacity faithful
  have entries := congrArg Cache.entries faithful
  cases command with
  | clear =>
    change h.cache.clear = ⟨capacity, (Cache.replay (C.uses (sinceClear (_ ++ _)))).rtake _⟩
    rw [sinceClear_concat_cleared, Cache.clear, bound]
    exact congrArg (Cache.mk capacity) (List.rtake_nil _).symm
  | request f =>
    cases served : C.request h.cache f with
    | error e =>
      rw [serve_of_error served, Faithful, sinceClear_concat rfl, uses_append]
      change h.cache = ⟨capacity, (Cache.replay (_ ++ [])).rtake _⟩
      rw [List.append_nil, faithful]
    | ok result =>
      obtain ⟨compiled, next⟩ := result
      have fits : h.cache.entries.length ≤ h.cache.capacity.toNat := by
        rw [entries, bound]
        exact List.length_rtake_le _ _
      have distinct : ((Cache.replay (C.uses (sinceClear h.replies))).map Prod.fst).Nodup := by
        rw [Cache.keys_replay]
        exact List.nodup_dedup _
      rw [serve_of_ok served, Faithful, sinceClear_concat rfl, uses_append]
      change next = ⟨capacity, (Cache.replay (_ ++ [(C.key f, compiled)])).rtake _⟩
      rw [Cache.entries_of_fetch fits (handed_of_request served).1, bound, entries,
        Cache.rtake_touch_rtake distinct, Cache.replay_concat]

theorem history_concat (commands : List (Command φ)) (command : Command φ) :
    C.history capacity (commands ++ [command]) = C.serve (C.history capacity commands) command := by
  rw [history, List.foldl_append]
  rfl

theorem history_faithful (capacity : ℤ) (commands : List (Command φ)) :
    C.Faithful capacity (C.history capacity commands) := by
  induction commands using List.reverseRecOn with
  | nil => exact congrArg (Cache.mk capacity) (List.rtake_nil _).symm
  | append_singleton commands command ih =>
    rw [history_concat]
    exact ih.serve command

theorem Faithful.keys_eq (faithful : C.Faithful capacity h) :
    h.cache.keys = C.recent capacity.toNat h.replies := by
  rw [faithful, recent, ← Cache.keys_replay, Cache.keys, List.rtake, List.rtake, List.map_drop,
    List.length_map]

theorem Faithful.lastHanded_eq (faithful : C.Faithful capacity h) {key : κ}
    (found : h.cache.find? key = some compiled) : C.lastHanded h.replies key = some compiled := by
  have member := Cache.mem_of_find? found
  rw [faithful] at member
  have last := Cache.lookup_of_mem_replay (List.mem_of_mem_drop member)
  -- The uses since the last clearing are the last of all uses.
  obtain ⟨before, parts⟩ : sinceClear h.replies <:+ h.replies := List.rtakeWhile_suffix _ _
  rw [lastHanded, ← parts, uses_append, List.reverse_append, List.lookup_append, last,
    Option.some_or]

theorem request_of_held {key : κ} (found : h.cache.find? key = some compiled)
    (make : Except ε γ) : (h.cache.obtain key make).map Prod.fst = .ok compiled := by
  rw [Cache.obtain_of_held found, Cache.fetch_of_held found]
  rfl

theorem request_of_unheld (unheld : C.key f ∉ h.cache.keys) :
    (C.request h.cache f).map Prod.fst = C.compile f := by
  rw [request, Cache.obtain_of_unheld unheld]
  cases C.compile f with
  | error e => rfl
  | ok value => exact congrArg (Except.ok ∘ Prod.fst) (Cache.fetch_of_unheld unheld)

/-- The cache holds the keys used last since it was cleared, by last use, and no more of them than it
has room for. For a key that is held, what was handed out last is handed out again, whatever compiling
would give now. -/
theorem keys_least_recently_used (C : Compiler κ φ γ ι ρ ε) {capacity : ℕ}
    {commands : List (Command φ)} {h : History κ φ γ ε}
    (reached : C.history capacity commands = h) :
    h.cache.keys = C.recent capacity h.replies ∧ h.cache.size ≤ capacity ∧
      ∀ key ∈ h.cache.keys, ∃ compiled, C.lastHanded h.replies key = some compiled ∧
        ∀ make : Except ε γ, (h.cache.obtain key make).map Prod.fst = .ok compiled := by
  subst reached
  have faithful := C.history_faithful capacity commands
  refine ⟨faithful.keys_eq, ?_, fun key held => ?_⟩
  · rw [Cache.size, faithful]
    exact List.length_rtake_le _ _
  · obtain ⟨compiled, found⟩ := Cache.exists_find? held
    exact ⟨compiled, faithful.lastHanded_eq found, request_of_held found⟩

def multiplication (name : String) (factor : ℤ) : CompileRequest :=
  ⟨name, [], .int factor, .int 1, .int 0⟩

def threeNames : List (Command (Nat × CompileRequest)) :=
  [.request (0, multiplication "f" 2), .clear, .request (1, multiplication "f" 3),
    .request (2, multiplication "g" 5), .request (3, multiplication "f" 7),
    .request (4, multiplication "h" 11)]

theorem keys_least_recently_used_threeNames :
    (linearFunctions.history (2 : ℕ) threeNames).cache.keys = [("f", []), ("h", [])] ∧
    linearFunctions.recent 2 (linearFunctions.history (2 : ℕ) threeNames).replies =
      [("f", []), ("h", [])] ∧
    ∀ make : Outcome Float (ℕ × Literal Float),
      ((linearFunctions.history (2 : ℕ) threeNames).cache.obtain ("f", []) make).map Prod.fst =
        .ok (1, .int 3) := by
  have keys : (linearFunctions.history (2 : ℕ) threeNames).cache.keys = [("f", []), ("h", [])] := rfl
  have first : linearFunctions.lastHanded (linearFunctions.history (2 : ℕ) threeNames).replies
      ("f", []) = some (1, .int 3) := rfl
  obtain ⟨recent, -, again⟩ := keys_least_recently_used linearFunctions
    (rfl : linearFunctions.history (2 : ℕ) threeNames = _)
  obtain ⟨compiled, last, handed⟩ := again ("f", []) (keys ▸ List.mem_cons_self)
  obtain rfl := Option.some.inj (last.symm.trans first)
  exact ⟨keys, recent ▸ keys, handed⟩

/-- What `g` was compiled to was handed out for it when its key was not held, and the key has been
held ever since. -/
def Origin (C : Compiler κ φ γ ι ρ ε) (n : ℕ) (replies : List (Reply φ γ ε)) (g : φ)
    (compiled : γ) : Prop :=
  ∃ before later, replies = before ++ .handed g compiled :: later ∧ C.compile g = .ok compiled ∧
    C.key g ∉ C.recent n before ∧
    ∀ part, part <+: later → C.key g ∈ C.recent n (before ++ .handed g compiled :: part)

variable {n : ℕ} {replies : List (Reply φ γ ε)} {reply : Reply φ γ ε} {g : φ}

theorem Origin.concat (origin : C.Origin n replies g compiled)
    (held : C.key g ∈ C.recent n (replies ++ [reply])) :
    C.Origin n (replies ++ [reply]) g compiled := by
  obtain ⟨before, later, rfl, made, unheld, since⟩ := origin
  refine ⟨before, later ++ [reply], by simp, made, unheld, fun part initial => ?_⟩
  obtain rfl | earlier := List.prefix_concat_iff.mp initial
  · simpa using held
  · exact since part earlier

theorem Origin.new (made : C.compile g = .ok compiled) (unheld : C.key g ∉ C.recent n replies)
    (held : C.key g ∈ C.recent n (replies ++ [.handed g compiled])) :
    C.Origin n (replies ++ [.handed g compiled]) g compiled := by
  refine ⟨replies, [], rfl, made, unheld, fun part initial => ?_⟩
  obtain rfl := List.prefix_nil.mp initial
  exact held

theorem Origin.compile_eq (origin : C.Origin n replies g compiled) :
    C.compile g = .ok compiled := by
  obtain ⟨_, _, -, made, -⟩ := origin
  exact made

theorem Origin.mem_sinceClear (origin : C.Origin n replies g compiled) :
    .handed g compiled ∈ sinceClear replies := by
  obtain ⟨before, later, rfl, -, -, since⟩ := origin
  have unclear : .cleared ∉ .handed g compiled :: later := by
    rw [List.mem_cons, not_or]
    refine ⟨nofun, fun clear => ?_⟩
    obtain ⟨part, rest, rfl⟩ := List.append_of_mem clear
    have held := since (part ++ [.cleared]) ⟨rest, by simp⟩
    rw [← List.cons_append, ← List.append_assoc, recent, sinceClear_concat_cleared] at held
    simp [uses] at held
  rw [sinceClear_append unclear]
  simp

/-- Every entry has an origin in the commands since its key was brought into the cache. -/
def Traced (C : Compiler κ φ γ ι ρ ε) (n : ℕ) (h : History κ φ γ ε) : Prop :=
  ∀ key compiled, (key, compiled) ∈ h.cache.entries →
    ∃ g, C.key g = key ∧ C.Origin n h.replies g compiled

theorem Faithful.recent_of_mem (faithful : C.Faithful capacity h) {key : κ}
    (member : (key, compiled) ∈ h.cache.entries) : key ∈ C.recent capacity.toNat h.replies := by
  rw [← faithful.keys_eq]
  exact List.mem_map.mpr ⟨_, member, rfl⟩

theorem Traced.serve (traced : C.Traced capacity.toNat h) (faithful : C.Faithful capacity h)
    (command : Command φ) : C.Traced capacity.toNat (C.serve h command) := by
  have after := faithful.serve command
  cases command with
  | clear => exact nofun
  | request f =>
    cases served : C.request h.cache f with
    | error e =>
      rw [serve_of_error served] at after ⊢
      intro key compiled member
      obtain ⟨g, rfl, origin⟩ := traced key compiled member
      exact ⟨g, rfl, origin.concat (after.recent_of_mem member)⟩
    | ok result =>
      obtain ⟨handed, next⟩ := result
      obtain ⟨fetched, came⟩ := handed_of_request served
      rw [serve_of_ok served] at after ⊢
      intro key compiled member
      have held := after.recent_of_mem member
      have kept (earlier : (key, compiled) ∈ h.cache.entries) : ∃ g, C.key g = key ∧
          C.Origin capacity.toNat (h.replies ++ [.handed f handed]) g compiled := by
        obtain ⟨g, rfl, origin⟩ := traced key compiled earlier
        exact ⟨g, rfl, origin.concat held⟩
      obtain earlier | last := Cache.mem_of_fetch fetched member
      · exact kept earlier
      · cases last
        obtain found | ⟨unheld, made⟩ := came
        · exact kept (Cache.mem_of_find? found)
        · rw [faithful.keys_eq] at unheld
          exact ⟨f, rfl, .new made unheld held⟩

theorem history_traced (capacity : ℤ) (commands : List (Command φ)) :
    C.Traced capacity.toNat (C.history capacity commands) := by
  induction commands using List.reverseRecOn with
  | nil => exact nofun
  | append_singleton commands command ih =>
    rw [history_concat]
    exact ih.serve (history_faithful capacity commands) command

section Wrapper

variable {own : φ → ι → Except ε ρ} (agrees : ∀ g x, (do C.run (← C.compile g) x) = own g x)

include agrees

theorem wrapped_of_request (served : (C.request h.cache f).map Prod.fst = C.compile g) (x : ι) :
    C.wrapped h.cache f x = own g x := by
  rw [← agrees, ← served, wrapped]
  cases C.request h.cache f <;> rfl

/-- The wrapper of a function runs what the function that brought its key into the cache was compiled
to, which is that function itself if the key is not held. So it computes what the function computes
wherever the functions that its key was used for since the last clearing do. -/
theorem wrapped_runs_origin {capacity : ℤ} {commands : List (Command φ)}
    (reached : C.history capacity commands = h) (f : φ) :
    (C.key f ∉ C.recent capacity.toNat h.replies →
      (C.request h.cache f).map Prod.fst = C.compile f ∧ ∀ x, C.wrapped h.cache f x = own f x) ∧
    (C.key f ∈ C.recent capacity.toNat h.replies → ∃ g compiled,
      C.key g = C.key f ∧ C.Origin capacity.toNat h.replies g compiled ∧
      (C.request h.cache f).map Prod.fst = .ok compiled ∧
      ∀ x, C.wrapped h.cache f x = own g x) ∧
    ∀ x, (∀ g compiled, .handed g compiled ∈ sinceClear h.replies → C.key g = C.key f →
      own g x = own f x) → C.wrapped h.cache f x = own f x := by
  subst reached
  have faithful := C.history_faithful capacity commands
  have fresh (unheld : C.key f ∉ C.recent capacity.toNat (C.history capacity commands).replies) :=
    request_of_unheld (faithful.keys_eq ▸ unheld)
  have shared (held : C.key f ∈ C.recent capacity.toNat (C.history capacity commands).replies) :
      ∃ g compiled, C.key g = C.key f ∧
        C.Origin capacity.toNat (C.history capacity commands).replies g compiled ∧
        (C.request (C.history capacity commands).cache f).map Prod.fst = .ok compiled ∧
        ∀ x, C.wrapped (C.history capacity commands).cache f x = own g x := by
    obtain ⟨compiled, found⟩ := Cache.exists_find? (faithful.keys_eq ▸ held)
    obtain ⟨g, same, origin⟩ := history_traced capacity commands _ _ (Cache.mem_of_find? found)
    have served := request_of_held found (C.compile f)
    exact ⟨g, compiled, same, origin, served,
      wrapped_of_request agrees (served.trans origin.compile_eq.symm)⟩
  refine ⟨fun unheld => ⟨fresh unheld, wrapped_of_request agrees (fresh unheld)⟩, shared, ?_⟩
  intro x alike
  by_cases held : C.key f ∈ C.recent capacity.toNat (C.history capacity commands).replies
  · obtain ⟨g, compiled, same, origin, -, called⟩ := shared held
    rw [called, alike g compiled origin.mem_sinceClear same]
  · exact wrapped_of_request agrees (fresh held) x

end Wrapper

def multiplied (f : Nat × CompileRequest) (x : CompileRequest) : Outcome Float Shown :=
  if f.2.positionsExist then x.value f.2.factor else .error .missingArray

theorem linearFunctions_agrees (f : Nat × CompileRequest) (x : CompileRequest) :
    (do linearFunctions.run (← linearFunctions.compile f) x) = multiplied f x := by
  simp only [linearFunctions, multiplied]
  split <;> rfl

theorem wrapped_runs_origin_multiplication :
    (∃ g compiled, linearFunctions.key g = ("f", []) ∧
      linearFunctions.Origin 128
        (linearFunctions.history 128 [.request (0, multiplication "f" 2)]).replies g compiled ∧
      ∀ x, linearFunctions.wrapped
        (linearFunctions.history 128 [.request (0, multiplication "f" 2)]).cache
        (1, multiplication "f" 3) x = multiplied g x) ∧
    ∀ x, linearFunctions.wrapped
      (linearFunctions.history 128 [.request (0, multiplication "f" 2)]).cache
      (1, multiplication "g" 3) x = multiplied (1, multiplication "g" 3) x := by
  constructor
  · obtain ⟨g, compiled, same, origin, -, called⟩ :=
      (wrapped_runs_origin linearFunctions_agrees rfl (1, multiplication "f" 3)).2.1
        (by decide : ("f", []) ∈ linearFunctions.recent 128
          (linearFunctions.history 128 [.request (0, multiplication "f" 2)]).replies)
    exact ⟨g, compiled, same, origin, called⟩
  · exact ((wrapped_runs_origin linearFunctions_agrees rfl (1, multiplication "g" 3)).1
      (by decide : ("g", []) ∉ linearFunctions.recent 128
        (linearFunctions.history 128 [.request (0, multiplication "f" 2)]).replies)).2

/-- Asked for under a name that is held, multiplication by three multiplies by two. -/
theorem tripling_doubles :
    linearFunctions.wrapped
      (linearFunctions.history 128 [.request (0, multiplication "f" 2)]).cache
      (1, multiplication "f" 3) (multiplication "f" 3) = .ok (.count 2) ∧
    multiplied (1, multiplication "f" 3) (multiplication "f" 3) = .ok (.count 3) :=
  ⟨rfl, rfl⟩

end Compiler

end ManifoldOpt
