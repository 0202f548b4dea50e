import MemberDispatch.Intrinsic.Collections
import MemberDispatch.Proofs.Routine.Textual

/-!
# Routines of collections

The members of byte strings, tuples, lists and mappings, and the conversions to collections, keep to
every routine that the operations of their engine keep to. So do all members of built-in classes.
-/

namespace MemberDispatch

namespace Act.Routine

variable (routine : Act.Routine)

section Bytes

theorem makeBytes (changeable : Bool) (bytes : List UInt8) :
    routine.Of (Engine.makeBytes changeable bytes) :=
  routine.ite (routine.makeByteArray _) (routine.pure _)

theorem makeByteStrings (changeable : Bool) (pieces : List (List UInt8)) :
    routine.Of (Engine.makeByteStrings changeable pieces) :=
  routine.bind (routine.mapM (routine.makeBytes changeable) _) fun _ => routine.makeList _

theorem bytesFromHex (changeable : Bool) (argument : Value) :
    routine.Of (Engine.bytesFromHex changeable argument) := by
  unfold Engine.bytesFromHex
  refine routine.bind (routine.textArgument _ _) ?_
  intro text
  split
  · exact routine.makeBytes _ _
  · exact routine.throw _

theorem makeByteTable (arguments : List Value) : routine.Of (Engine.makeByteTable arguments) :=
  routine.bind (routine.bytesArgument _) fun _ => routine.bind (routine.bytesArgument _) fun _ =>
    routine.ite (routine.throw _) (routine.pure _)

theorem decodeBytes (bytes : List UInt8) (arguments : List Value) :
    routine.Of (Engine.decodeBytes bytes arguments) := by
  unfold Engine.decodeBytes
  refine routine.bind (routine.encodingPair _ _ _) ?_
  rintro ⟨encoding, leniency⟩
  dsimp only
  split
  · exact routine.pure _
  · exact routine.throw _

theorem fillingByte (operation : String) (value : Option Value) :
    routine.Of (Engine.fillingByte operation value) := by
  unfold Engine.fillingByte
  split
  · exact routine.pure _
  · refine routine.bind (routine.bytes _) ?_
    intro bytes
    split
    · exact routine.pure _
    · exact routine.bind (routine.className _) fun _ => routine.throw _

theorem cutBytes (value : Option Value) : routine.Of (Engine.cutBytes value) := by
  unfold Engine.cutBytes
  split
  · exact routine.pure _
  · exact routine.pure _
  · exact routine.bind (routine.bytesArgument _) fun _ => routine.pure _

theorem byteSeparator (argument : Value) : routine.Of (Engine.byteSeparator argument) :=
  routine.bind (routine.bytesArgument _) fun _ => routine.ite (routine.throw _) (routine.pure _)

theorem byteItems (position : ℕ) (items : List Value) :
    routine.Of (Engine.byteItems position items) := by
  induction items generalizing position with
  | nil => exact routine.pure _
  | cons item items ih =>
      unfold Engine.byteItems
      refine routine.bind (routine.bytes _) ?_
      intro bytes
      split
      · exact routine.bind (ih _) fun _ => routine.pure _
      · exact routine.bind (routine.className _) fun _ => routine.throw _

theorem partitionBytes (changeable fromRight : Bool) (bytes : List UInt8) (argument : Value) :
    routine.Of (Engine.partitionBytes changeable fromRight bytes argument) :=
  routine.bind (routine.byteSeparator _) fun _ =>
    routine.bind (routine.mapM (routine.makeBytes changeable) _) fun _ => routine.pure _

theorem newByte (value : Value) : routine.Of (Engine.newByte value) :=
  routine.bind (routine.integer _) fun _ => routine.ite (routine.throw _) (routine.pure _)

end Bytes

section Bounds

theorem bound (length : ℕ) (default : ℤ) (value : Option Value) :
    routine.Of (Argument.bound length default value) := by
  unfold Argument.bound
  split
  · exact routine.pure _
  · refine routine.bind (routine.contentOf _) ?_
    intro content
    split
    · exact routine.pure _
    · exact routine.throw _

end Bounds

end Act.Routine

namespace Engine.Keeps

variable {routine : Act.Routine} {engine : Engine} (keeps : engine.Keeps routine.toHabit)

include keeps

section Bytes

theorem bytesMember (changeable : Bool) (name : String) (bytes : List UInt8)
    (arguments : List Value) : routine.Of (engine.bytesMember changeable name bytes arguments) := by
  have filled (work : ℤ → UInt8 → List UInt8) : routine.Of (do
      let width ← Argument.width (Argument.atOrNone arguments 0)
      makeBytes changeable (work width (← fillingByte name (Argument.at? arguments 1)))) :=
    routine.bind (routine.width _) fun _ =>
      routine.bind (routine.fillingByte _ _) fun _ => routine.makeBytes _ _
  have cut (work : (UInt8 → Bool) → List UInt8) : routine.Of (do
      makeBytes changeable (work (← cutBytes (Argument.at? arguments 0)))) :=
    routine.bind (routine.cutBytes _) fun _ => routine.makeBytes _ _
  have argument (value : Value) (work : List UInt8 → Act Value)
      (each : ∀ bytes, routine.Of (work bytes)) : routine.Of (Argument.bytes value >>= work) :=
    routine.bind (routine.bytesArgument _) each
  unfold Engine.bytesMember
  extract_lets first make fromRight translate
  have translated (removed : List UInt8) : routine.Of (translate removed) :=
    argument _ _ fun _ => routine.ite (routine.throw _) (routine.makeBytes _ _)
  split
  · exact routine.decodeBytes _ _
  · exact filled _
  · exact filled _
  · exact filled _
  · exact routine.bind (routine.width _) fun _ => routine.makeBytes _ _
  · exact routine.bind (routine.smallOr _ _) fun _ => routine.makeBytes _ _
  · refine routine.bind (keeps.items _) ?_
    intro items
    split
    · exact routine.throw _
    · exact routine.bind (routine.byteItems _ _) fun _ => routine.makeBytes _ _
  · exact cut _
  · exact cut _
  · exact cut _
  · exact routine.partitionBytes _ _ _ _
  · exact routine.partitionBytes _ _ _ _
  · exact argument _ _ fun _ => argument _ _ fun _ =>
      routine.bind (routine.sizeOr _ _) fun _ => routine.makeBytes _ _
  · exact argument _ _ fun _ => routine.makeBytes _ _
  · exact argument _ _ fun _ => routine.makeBytes _ _
  -- Splitting at blanks or at a separator, from the left and from the right.
  iterate 2
    · refine routine.bind (routine.sizeOr _ _) ?_
      intro limit
      clear_value first
      split
      · exact routine.makeByteStrings _ _
      · exact routine.bind (routine.byteSeparator _) fun _ => routine.makeByteStrings _ _
  · exact routine.bind (routine.smallOr _ _) fun _ => routine.makeByteStrings _ _
  · split
    · exact routine.bind (routine.pure _) translated
    · exact routine.bind (routine.bytesArgument _) translated
  · exact routine.throw _

theorem byteArrayMember (name : String) (address : ℕ) (bytes : List UInt8) (arguments : List Value) :
    routine.Of (engine.byteArrayMember name address bytes arguments) := by
  unfold Engine.byteArrayMember
  extract_lets first become extend
  have becomes (bytes : List UInt8) : routine.Of (become bytes) :=
    routine.bind (routine.setContent _ _) fun _ => routine.pure _
  split
  · exact routine.bind (routine.newByte _) fun _ => becomes _
  · exact becomes _
  · exact routine.makeByteArray _
  · refine routine.bind (routine.bytes _) ?_
    intro given
    split
    · exact routine.bind (routine.pure _) fun _ => becomes _
    · exact routine.bind (keeps.itemsOf _) fun _ =>
        routine.bind (routine.mapM routine.newByte _) fun _ => becomes _
  · exact routine.bind (routine.size _) fun _ => routine.bind (routine.newByte _) fun _ => becomes _
  · refine routine.bind (routine.sizeOr _ _) fun index => routine.ite (routine.throw _) ?_
    split
    · exact routine.throw _
    · exact routine.bind (routine.setContent _ _) fun _ => routine.pure _
  · exact routine.bind (routine.newByte _) fun _ => routine.ite (becomes _) (routine.throw _)
  · exact becomes _
  · exact keeps.bytesMember _ _ _ _

end Bytes

section Sorting

theorem announced (value : Value) : routine.Of (engine.announced value) := by
  unfold Engine.announced
  refine routine.bind (routine.classOf value) fun cls => routine.ite ?_ (routine.pure _)
  refine routine.bind (routine.attempt (keeps.operate _ _)) ?_
  intro outcome
  split
  · exact routine.pure _
  · exact routine.ite (routine.pure _) (routine.throw _)

theorem collected (value : Value) : routine.Of (engine.collected value) := by
  unfold Engine.collected
  refine routine.bind (routine.classOf value) fun cls => routine.ite (routine.pure _) ?_
  refine routine.ite (routine.bind (routine.dictEntries value) fun entries => ?_) ?_
  · split
    · exact routine.pure _
    · exact routine.throw _
  · refine routine.ite (routine.bind (keeps.itemsOf value) fun items => ?_) (routine.pure _)
    exact routine.bind (keeps.announced value) fun _ => routine.pure _

theorem firstRun_go (falls : Bool) (length : ℕ) (previous : Value) (items : List Value) :
    routine.Of (firstRun.go engine falls length previous items) := by
  induction items generalizing length previous with
  | nil => exact routine.pure _
  | cons next rest ih =>
      exact routine.bind (keeps.compares _ _ _) fun _ => routine.ite (ih _ _) (routine.pure _)

theorem firstRun (items : List Value) : routine.Of (engine.firstRun items) := by
  unfold Engine.firstRun
  split
  · exact routine.pure _
  · exact routine.pure _
  · exact routine.bind (keeps.compares _ _ _) fun _ =>
      routine.bind (keeps.firstRun_go _ _ _ _) fun _ => routine.pure _

theorem placeOf (items : Array Value) (item : Value) (fuel low high : ℕ) :
    routine.Of (engine.placeOf items item fuel low high) := by
  induction fuel generalizing low high with
  | zero => exact routine.pure _
  | succ fuel ih =>
      refine routine.ite (routine.bind (keeps.compares _ _ _) fun _ => ?_) (routine.pure _)
      exact routine.ite (ih _ _) (ih _ _)

theorem insertAll (run : Array Value) (items : List Value) :
    routine.Of (engine.insertAll run items) := by
  induction items generalizing run with
  | nil => exact routine.pure _
  | cons item items ih => exact routine.bind (keeps.placeOf _ _ _ _ _) fun _ => ih _

theorem sorted (values : List Value) : routine.Of (engine.sorted values) :=
  routine.bind (keeps.firstRun _) fun _ => keeps.insertAll _ _

theorem collectionFunction (name : String) (arguments : List Value) :
    routine.Of (engine.collectionFunction name arguments) := by
  unfold Engine.collectionFunction
  split
  · refine routine.bind (keeps.collected _) ?_
    intro items
    split
    · exact routine.makeList _
    · exact routine.bind (keeps.sorted _) fun _ => routine.makeList _
    · exact routine.bind (routine.distinctKeys _ _) fun _ => routine.makeSet _
    · exact routine.bind (routine.distinctKeys _ _) fun _ =>
        routine.bind (keeps.sorted _) fun _ => routine.makeList _
    · exact routine.throw _
  · exact routine.throw _

end Sorting

section Members

theorem firstPlace (value : Value) (position : ℕ) (items : List Value) :
    routine.Of (engine.firstPlace? value position items) := by
  induction items generalizing position with
  | nil => exact routine.pure _
  | cons item items ih =>
      exact routine.bind (keeps.sameOrEqual _ _) fun _ => routine.ite (routine.pure _) (ih _)

theorem searchItems (items arguments : List Value) :
    routine.Of (engine.searchItems items arguments) :=
  routine.bind (routine.bound _ _ _) fun _ =>
    routine.bind (routine.bound _ _ _) fun _ => keeps.firstPlace _ _ _

theorem countItems (value : Value) (items : List Value) :
    routine.Of (engine.countItems value items) :=
  routine.bind (routine.filterM (fun _ => keeps.sameOrEqual _ _) _) fun _ => routine.pure _

theorem tupleMember (name : String) (items arguments : List Value) :
    routine.Of (engine.tupleMember name items arguments) := by
  unfold Engine.tupleMember
  split
  · exact keeps.countItems _ _
  · refine routine.bind (keeps.searchItems _ _) ?_
    intro place
    split
    · exact routine.pure _
    · exact routine.throw _
  · exact routine.throw _

theorem listMember (name : String) (address : ℕ) (items arguments : List Value) :
    routine.Of (engine.listMember name address items arguments) := by
  unfold Engine.listMember
  extract_lets first become
  have becomes (items : List Value) : routine.Of (become items) :=
    routine.bind (routine.setContent _ _) fun _ => routine.pure _
  split
  · exact becomes _
  · exact becomes _
  · exact routine.makeList _
  · exact keeps.countItems _ _
  · exact routine.bind (keeps.itemsOf _) fun _ => becomes _
  · refine routine.bind (keeps.searchItems _ _) ?_
    intro place
    split
    · exact routine.pure _
    · exact routine.bind (keeps.display _) fun _ => routine.throw _
  · exact routine.bind (routine.size _) fun _ => becomes _
  · refine routine.bind (routine.sizeOr _ _) fun index => routine.ite (routine.throw _) ?_
    split
    · exact routine.throw _
    · exact routine.bind (routine.setContent _ _) fun _ => routine.pure _
  · refine routine.bind (keeps.firstPlace _ _ _) ?_
    intro place
    split
    · exact becomes _
    · exact routine.throw _
  · exact becomes _
  · exact routine.bind (keeps.sorted _) fun _ => becomes _
  · exact routine.throw _

omit keeps in
theorem valueOf (key : Value) (entries : List (Value × Value)) :
    routine.Of (engine.valueOf? key entries) :=
  routine.bind (routine.requireKey _ _) fun _ => routine.bind routine.get fun _ => routine.pure _

omit keeps in
theorem dictMember (name : String) (address : ℕ) (entries : List (Value × Value))
    (arguments : List Value) : routine.Of (engine.dictMember name address entries arguments) := by
  unfold Engine.dictMember
  dsimp only
  split
  · exact routine.bind (valueOf _ _) fun _ => routine.pure _
  · refine routine.bind (valueOf _ _) ?_
    intro found
    split
    · exact routine.pure _
    · exact routine.bind (routine.setContent _ _) fun _ => routine.pure _
  · split
    · exact routine.throw _
    · exact routine.bind (routine.setContent _ _) fun _ => routine.pure _
  · exact routine.throw _

theorem dictFromKeys (arguments : List Value) : routine.Of (engine.dictFromKeys arguments) :=
  routine.bind (keeps.itemsOf _) fun _ =>
    routine.bind (routine.distinctKeys _ _) fun _ => routine.makeDict _

theorem intrinsicStatic {owner : BuiltinClass} {name : String} {arguments : List Value}
    {work : Act Value} (static : engine.intrinsicStatic? owner name arguments = some work) :
    routine.Of work := by
  unfold Engine.intrinsicStatic? at static
  dsimp only at static
  split at static
  all_goals cases static
  · exact keeps.fromBytes _
  · exact routine.fromHex _
  · exact routine.decimalFromFloat _
  · exact keeps.fractionOfFloat _
  · exact keeps.fractionOfDecimal _
  · exact routine.bytesFromHex _ _
  · exact routine.bytesFromHex _ _
  · exact routine.makeByteTable _
  · exact routine.makeByteTable _
  · exact keeps.dictFromKeys _

theorem intrinsicMember (owner : BuiltinClass) (name : String) (value : Value)
    (arguments : List Value) :
    routine.Of (engine.intrinsicMember owner name value arguments) := by
  unfold Engine.intrinsicMember
  split
  · refine routine.ite (keeps.operate _ _) (routine.bind (routine.contentOf value) fun content => ?_)
    split
    · exact routine.decimalMember _ _ _
    · exact routine.floatMember _ _
    · exact keeps.integerMember _ _ _
  refine routine.bind (routine.contentOf value) ?_
  intro content
  split
  · exact routine.floatMember _ _
  · exact routine.decimalMember _ _ _
  · exact keeps.fractionMember _ _ _
  · exact keeps.textMember _ _ _
  · exact keeps.bytesMember _ _ _ _
  · exact keeps.tupleMember _ _ _
  · exact keeps.integerMember _ _ _
  · exact keeps.integerMember _ _ _
  · refine routine.bind (routine.objectAt _) ?_
    intro object
    split
    · exact keeps.listMember _ _ _ _
    · exact dictMember _ _ _ _
    · exact keeps.byteArrayMember _ _ _ _
    · exact routine.throw _
  · exact routine.throw _

theorem intrinsicFunction (owner : BuiltinClass) (name : String) (arguments : List Value) :
    routine.Of (engine.intrinsicFunction owner name arguments) := by
  unfold Engine.intrinsicFunction
  split
  · rename_i static
    exact keeps.intrinsicStatic static
  · split
    · exact routine.throw _
    · exact keeps.intrinsicMember _ _ _ _

end Members

end Engine.Keeps

end MemberDispatch
