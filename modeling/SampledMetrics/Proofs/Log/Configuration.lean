import SampledMetrics.Log.Channel
import SampledMetrics.Proofs.Log.Logger
/-!
A channel that is configured again and again.  A handler that is used several times has several filters,
and writes what it would write with one.  Main statements: after the last call that succeeds, its handler
alone writes, in the form and from the level of that call; a call whose level is refused leaves the level
as it was, but its handler is already the only one.
-/

set_option autoImplicit false
set_option relaxedAutoImplicit false

namespace SampledMetrics.Log

def Form.line (form : Form) (stamp : String) (r : Record) : String :=
  match form with
  | .text => r.toText stamp
  | .json => r.toJson stamp

namespace Handler

variable {h : Handler} {form : Form}

private theorem repeat_note (n : Nat) (r : Record) :
    Nat.repeat Handed.note (n + 1) { record := r } = ⟨r, some r.metricText⟩ := by
  induction n with
  | zero => rfl
  | succ n ih =>
    rw [Nat.repeat, ih]
    rfl

private theorem line?_equip (h : Handler) (form : Form) (stamp : String) (r : Record) :
    (h.equip form).line? stamp r = if h.emits r then some (form.line stamp r) else none := by
  have handed : (h.equip form).filter r = ⟨r, some r.metricText⟩ := repeat_note h.filters r
  have emits : (h.equip form).emits r = h.emits r := rfl
  unfold line?
  rw [handed, emits]
  cases form <;> rfl

private theorem exists_close (h : Handler) : ∃ closed, h.close = { h with closed } := by
  unfold close
  split
  · exact ⟨h.closed, rfl⟩
  · exact ⟨true, rfl⟩

/-- A handler writes every record of a positive level that comes to it, if it has no level of its own and,
where it is closed, still writes then. -/
private theorem emits_of_open (plain : h.least ≤ 0) (still : h.writesClosed ∨ h.closed = false) {r : Record}
    (positive : 0 < r.level.toInt) : h.emits r := by
  have reached : h.least ≤ r.level.toInt := by omega
  rcases still with writes | opened
  · simp [emits, reached, writes]
  · simp [emits, reached, opened]

private theorem close_close (h : Handler) : h.close.close = h.close := by
  unfold close
  split <;> rfl

end Handler

namespace Channel

variable {c c' : Channel} {id : HandlerId} {h : Handler} {form : Form} {level : Value}

private theorem getElem?_foldl_close (ids : List HandlerId) (handlers : Array Handler) (id : HandlerId) :
    (ids.foldl (fun hs id => hs.modify id Handler.close) handlers)[id]? =
      handlers[id]?.map fun h => if id ∈ ids then h.close else h := by
  induction ids generalizing handlers with
  | nil => simp
  | cons first rest ih =>
    rw [List.foldl_cons, ih, Array.getElem?_modify]
    by_cases here : first = id
    · subst here
      by_cases again : first ∈ rest <;> simp [again, Option.map_map, Function.comp_def, Handler.close_close]
    · simp [here, Ne.symm here]

private theorem handler?_clear (c : Channel) (id : HandlerId) :
    c.clear.handler? id = (c.handler? id).map fun h => if id ∈ c.attached then h.close else h :=
  getElem?_foldl_close c.attached c.handlers id

private theorem handler?_attach (c : Channel) (id other : HandlerId) (form : Form) :
    (c.attach id form).handler? other =
      (c.handler? other).map fun h => if other = id then h.equip form else h := by
  simp only [handler?, attach, Array.getElem?_modify]
  by_cases here : id = other
  · simp [here]
  · simp [here, Ne.symm here]

/-- A handler after those that are attached have been taken away. -/
def cleared (c : Channel) (id : HandlerId) (h : Handler) : Handler :=
  if id ∈ c.attached then h.close else h

private theorem exists_cleared (c : Channel) (id : HandlerId) (h : Handler) :
    ∃ closed, c.cleared id h = { h with closed } := by
  unfold cleared
  split
  · exact h.exists_close
  · exact ⟨h.closed, rfl⟩

private theorem outlet_cleared (c : Channel) (id : HandlerId) (h : Handler) :
    (c.cleared id h).outlet = h.outlet := by
  obtain ⟨closed, same⟩ := c.exists_cleared id h
  rw [same]

/-- A handler without a level of its own writes what comes to it, unless it was attached before and no longer
writes when it is closed. -/
private theorem emits_cleared (plain : h.least ≤ 0)
    (lasting : h.writesClosed ∨ h.closed = false ∧ id ∉ c.attached) {r : Record}
    (positive : 0 < r.level.toInt) : (c.cleared id h).emits r := by
  rcases lasting with writes | ⟨opened, free⟩
  · obtain ⟨closed, same⟩ := c.exists_cleared id h
    rw [same]
    exact Handler.emits_of_open (h := { h with closed }) plain (.inl writes) positive
  · rw [cleared, if_neg free]
    exact Handler.emits_of_open plain (.inr opened) positive

/-- A handler after it is taken away, if it was attached, and equipped, if it is the one attached then. -/
def replaced (c : Channel) (id : HandlerId) (form : Form) (other : HandlerId) (h : Handler) : Handler :=
  if other = id then (c.cleared other h).equip form else c.cleared other h

private theorem handler?_replaced (c : Channel) (id other : HandlerId) (form : Form) :
    (c.clear.attach id form).handler? other = (c.handler? other).map (c.replaced id form other) := by
  rw [handler?_attach, handler?_clear, Option.map_map]
  rfl

private theorem configure_ok {taken : Level} (valid : Level.ofValue level = .ok taken) (c : Channel) (form : Form)
    (id : HandlerId) : c.configure level form id =
      (.ok (), { c.clear.attach id form with level := taken, propagates := false }) := by
  simp only [configure, valid]

private theorem configure_error {failure : Failure} (refused : Level.ofValue level = .error failure) (c : Channel)
    (form : Form) (id : HandlerId) :
    c.configure level form id = (.error failure, c.clear.attach id form) := by
  simp only [configure, refused]

/-- A handler that is attached alone, and has been equipped, writes once what is accepted and what it lets
through. -/
private theorem write_of_attached (alone : c.attached = [id]) (present : c.handler? id = some (h.equip form))
    (stamp : String) (r : Record) :
    c.write stamp r = if c.accepts r && h.emits r then [(h.outlet, form.line stamp r)] else [] := by
  have outlet : (h.equip form).outlet = h.outlet := rfl
  unfold write
  cases c.accepts r with
  | false => rfl
  | true => cases emits : h.emits r <;> simp [alone, present, Handler.line?_equip, emits, outlet]

private theorem handler?_equipped (present : c.handler? id = some h) (form : Form) :
    (c.clear.attach id form).handler? id = some ((c.cleared id h).equip form) := by
  rw [handler?_replaced, present, Option.map_some, replaced, if_pos rfl]

/-- What happens to a channel: a further handler is made, a logger is used, or the channel is configured. -/
inductive Act
  | create (h : Handler)
  | use (logger : String)
  | configure (level : Value) (form : Form) (id : HandlerId)

def Act.isConfigure : Act → Bool
  | .configure _ _ _ => true
  | _ => false

def act (c : Channel) : Act → Channel
  | .create h => (c.addHandler h).2
  | .use logger => c.use logger
  | .configure level form id => (c.configure level form id).2

def actAll (c : Channel) (acts : List Act) : Channel :=
  acts.foldl act c

/-- A channel that is configured as another one, with the same handlers and perhaps more. -/
structure Continues (c c' : Channel) : Prop where
  attached : c'.attached = c.attached
  level : c'.level = c.level
  propagates : c'.propagates = c.propagates
  handler : ∀ id h, c.handler? id = some h → c'.handler? id = some h

theorem Continues.refl (c : Channel) : c.Continues c :=
  ⟨rfl, rfl, rfl, fun _ _ present => present⟩

theorem Continues.trans {c'' : Channel} (first : c.Continues c') (second : c'.Continues c'') :
    c.Continues c'' where
  attached := second.attached.trans first.attached
  level := second.level.trans first.level
  propagates := second.propagates.trans first.propagates
  handler := fun id h present => second.handler id h (first.handler id h present)

private theorem continues_act (c : Channel) {a : Act} (calm : a.isConfigure = false) : c.Continues (c.act a) := by
  cases a with
  | create further =>
    refine ⟨rfl, rfl, rfl, fun id h present => ?_⟩
    have inside : id < c.handlers.size := by
      obtain ⟨inside, -⟩ := Array.getElem?_eq_some_iff.mp present
      exact inside
    have older : (c.handlers.push further)[id]? = c.handlers[id]? := by
      simp [Array.getElem?_push_lt inside, inside]
    exact older.trans present
  | use logger => exact ⟨rfl, rfl, rfl, fun _ _ present => present⟩
  | configure level form id => contradiction

private theorem continues_actAll {acts : List Act} (calm : ∀ a ∈ acts, a.isConfigure = false) :
    c.Continues (c.actAll acts) := by
  induction acts generalizing c with
  | nil => exact Continues.refl c
  | cons a rest ih =>
    obtain ⟨first, others⟩ := List.forall_mem_cons.mp calm
    exact (continues_act c first).trans (ih others)

private theorem contains_loggers_actAll {logger : String} (known : c.loggers.contains logger) (acts : List Act) :
    (c.actAll acts).loggers.contains logger := by
  induction acts generalizing c with
  | nil => exact known
  | cons a rest ih =>
    refine ih ?_
    cases a with
    | create h => exact known
    | use other => simp_all [act, Channel.use]
    | configure level form id =>
      have kept : (c.configure level form id).2.loggers = c.loggers := by
        unfold configure
        split <;> rfl
      rw [act, kept]
      exact known

private theorem covers_of_below (known : c.loggers.contains loggerName) {logger : String}
    (below : Logger.Below loggerName logger) : c.covers logger := by
  have plain : Logger.EndsPlain loggerName := ⟨'s', _, rfl, by decide⟩
  exact Logger.reaches_of_below known plain below logger.length (Nat.le_add_right _ _)

/-- Among calls of any kind, the last one decides, if its level is valid: its handler is the only one that is
attached, also if it was attached before, and nothing goes on to the application's own handlers.  It gets
every record of the library's loggers once, in the form of the call, with the words for the metric as a
single filter notes them, if the level of the record is positive and at least the one of the call, or at
least that of warnings if the call says none.  The handler has no level of its own, and one that was
attached before still writes when it is closed. -/
theorem write_of_last_configure {taken : Level} (before later : List Act)
    (known : c.loggers.contains loggerName) (present : (c.actAll before).handler? id = some h)
    (plain : h.least ≤ 0)
    (lasting : h.writesClosed ∨ h.closed = false ∧ id ∉ (c.actAll before).attached)
    (valid : Level.ofValue level = .ok taken) (calm : ∀ a ∈ later, a.isConfigure = false) :
    let last := c.actAll (before ++ .configure level form id :: later)
    last.attached = [id] ∧ last.level = taken ∧
      ∀ stamp r, last.passesOn r = false ∧ (Logger.Below loggerName r.logger →
        last.write stamp r =
          if 0 < r.level.toInt ∧
              (if taken.toInt = 0 then fallbackLevel else taken.toInt) ≤ r.level.toInt then
            [(h.outlet, form.line stamp r)]
          else []) := by
  intro last
  have equipped := handler?_equipped present form
  have steps : last = Channel.actAll
      { (c.actAll before).clear.attach id form with level := taken, propagates := false } later := by
    simp only [last, actAll, List.foldl_append, List.foldl_cons]
    rw [act, configure_ok valid]
  have continues : Channel.Continues _ last := steps ▸ continues_actAll calm
  have alone : last.attached = [id] := continues.attached
  have level : last.level = taken := continues.level
  have silent : last.propagates = false := continues.propagates
  refine ⟨alone, level, fun stamp r => ⟨by simp [passesOn, silent], fun below => ?_⟩⟩
  have covered : last.covers r.logger := covers_of_below (contains_loggers_actAll known _) below
  rw [write_of_attached alone (continues.handler id _ equipped), outlet_cleared]
  by_cases positive : 0 < r.level.toInt
  · have emits := emits_cleared plain lasting positive
    simp only [accepts, covered, threshold, level, positive, emits, Bool.true_and, Bool.and_true,
      decide_true, true_and, decide_eq_true_eq]
  · simp [accepts, positive]

/-- A record of a logger below the library's first one, about a histogram in a group. -/
def sampleRecord (level : Int) : Record :=
  ⟨loggerName ++ "." ++ "core", .number level, "filled", .text "wait", .text "jobs", none⟩

private theorem below_sampleRecord (level : Int) : Logger.Below loggerName (sampleRecord level).logger :=
  .child .self (by decide) (by decide)

/-- Two handlers, of which the first is used for JSON, then the second one, and then the first again. -/
def repeatedCalls : List Act :=
  [.create { outlet := .stream "main" }, .create { outlet := .stream "aside", writesClosed := false },
    .configure (.text "DEBUG") .json 1, .configure (.int 40) .text 2]

/-- The first handler, which has two filters then and has been closed, writes a record from its level on; so
does the second one before it is closed, although it writes nothing afterwards. -/
theorem write_of_last_configure_again :
    let last := initial.actAll (repeatedCalls ++ .configure (.text "INFO") .text 1 :: [.use "other"])
    let first := initial.actAll (repeatedCalls.take 2 ++ .configure (.text "INFO") .text 2 :: [])
    last.attached = [1] ∧
      last.write "0" (sampleRecord 20) =
        [(.stream "main", "0 [INFO] histometrics.core [jobs/wait]: filled")] ∧
      last.write "0" (sampleRecord 10) = [] ∧
      first.write "0" (sampleRecord 20) =
        [(.stream "aside", "0 [INFO] histometrics.core [jobs/wait]: filled")] := by
  obtain ⟨alone, -, writes⟩ := @write_of_last_configure initial 1
    { outlet := .stream "main", form := .json, filters := 1, closed := true } .text (.text "INFO") (.number 20)
    repeatedCalls [.use "other"] (by decide) rfl (by decide) (.inl rfl) rfl (by decide)
  obtain ⟨-, -, fresh⟩ := @write_of_last_configure initial 2
    { outlet := .stream "aside", writesClosed := false } .text (.text "INFO") (.number 20)
    (repeatedCalls.take 2) [] (by decide) rfl (by decide) (.inr ⟨rfl, by decide⟩) rfl (by decide)
  refine ⟨alone, ((writes "0" (sampleRecord 20)).2 (below_sampleRecord 20)).trans ?_,
    ((writes "0" (sampleRecord 10)).2 (below_sampleRecord 10)).trans ?_,
    ((fresh "0" (sampleRecord 20)).2 (below_sampleRecord 20)).trans ?_⟩
  · decide +kernel
  · decide +kernel
  · decide +kernel

/-- A level that is no level, or one that is not positive, lets less through than its number says: records
without a positive level never pass, and without a level it is that of warnings that counts. -/
theorem write_below_unset_level :
    let c := (initial.addHandler { outlet := .stream "main" }).2
    let unset := c.configure (.text "NOTSET") .text 1
    let negative := c.configure (.int (-5)) .text 1
    (unset.1 = .ok () ∧ unset.2.level.toInt ≤ (sampleRecord 10).level.toInt ∧
        unset.2.write "0" (sampleRecord 10) = []) ∧
      negative.1 = .ok () ∧ negative.2.level.toInt ≤ (sampleRecord 0).level.toInt ∧
        negative.2.write "0" (sampleRecord 0) = [] :=
  ⟨⟨rfl, by decide, by decide +kernel⟩, rfl, by decide, by decide +kernel⟩

/-- A call whose level is refused leaves the level as it was, and whether records go on to the application's
own handlers; the handlers have been replaced before.  So the same records are accepted as before, but
they are handed to the handler of the call, which writes in its form those that it lets through. -/
theorem configure_refused {failure : Failure} (refused : Level.ofValue level = .error failure)
    (present : c.handler? id = some h) :
    let after := (c.configure level form id).2
    (c.configure level form id).1 = .error failure ∧ after.level = c.level ∧
      after.propagates = c.propagates ∧ after.loggers = c.loggers ∧ after.attached = [id] ∧
      (∀ other, after.handler? other = (c.handler? other).map (c.replaced id form other)) ∧
      ∀ stamp r, after.passesOn r = c.passesOn r ∧
        after.write stamp r =
          if c.accepts r && (c.cleared id h).emits r then [(h.outlet, form.line stamp r)] else [] := by
  rw [configure_error refused]
  refine ⟨rfl, rfl, rfl, rfl, by simp, fun other => handler?_replaced c id other form,
    fun stamp r => ⟨rfl, ?_⟩⟩
  rw [write_of_attached (by simp) (handler?_equipped present form), outlet_cleared]
  rfl

/-- A channel that writes to one stream, and a handler for another. -/
def settledChannel : Channel :=
  (((initial.addHandler { outlet := .stream "main" }).2.configure (.text "INFO") .text 1).2.addHandler
    { outlet := .stream "late" }).2

/-- The level is refused, and yet the records go elsewhere from then on. -/
theorem configure_refused_late :
    let after := (settledChannel.configure (.text "LOUD") .text 2).2
    (settledChannel.configure (.text "LOUD") .text 2).1 = .error (.unknownLevel "LOUD") ∧
      after.level = .number 20 ∧ after.attached = [2] ∧
      after.write "0" (sampleRecord 20) =
        [(.stream "late", "0 [INFO] histometrics.core [jobs/wait]: filled")] := by
  obtain ⟨failed, kept, -, -, alone, -, writes⟩ := @configure_refused settledChannel 2
    { outlet := .stream "late" } .text (.text "LOUD") (.unknownLevel "LOUD") rfl rfl
  exact ⟨failed, kept.trans rfl, alone, (writes "0" (sampleRecord 20)).2.trans (by decide +kernel)⟩

/-- A refused level is no call undone: the handler before has been taken away and closed, and what it wrote
is written by the other one. -/
theorem configure_refused_redirects :
    let after := (settledChannel.configure (.text "LOUD") .text 2).2
    (settledChannel.configure (.text "LOUD") .text 2).1 = .error (.unknownLevel "LOUD") ∧
      settledChannel.attached = [1] ∧ after.attached = [2] ∧
      (settledChannel.handler? 1).map Handler.closed = some false ∧
      (after.handler? 1).map Handler.closed = some true ∧
      (settledChannel.write "0" (sampleRecord 20)).map Prod.fst = [.stream "main"] ∧
      (after.write "0" (sampleRecord 20)).map Prod.fst = [.stream "late"] :=
  ⟨rfl, rfl, rfl, by decide +kernel, by decide +kernel, by decide +kernel, by decide +kernel⟩

end Channel

end SampledMetrics.Log
