/-! A value that is published, and subscribers who notice when it is published anew. -/

namespace Viewpoint

/-- The latest published value, and how often a value has been published. -/
structure Channel (α : Type) where
  value : α
  version : Nat
  deriving DecidableEq, Repr

/-- A subscriber, and the version that it has seen. -/
structure Subscriber where
  seen : Nat
  deriving DecidableEq, Repr

namespace Channel

variable {α : Type}

/-- A channel that starts with a value. -/
def opening (value : α) : Channel α :=
  ⟨value, 0⟩

/-- Publishes a value. -/
def publish (channel : Channel α) (value : α) : Channel α :=
  ⟨value, channel.version + 1⟩

/-- A subscriber that has seen everything published so far. -/
def subscribe (channel : Channel α) : Subscriber :=
  ⟨channel.version⟩

/-- Something was published since the subscriber looked. -/
def hasNews (channel : Channel α) (subscriber : Subscriber) : Bool :=
  subscriber.seen != channel.version

end Channel

end Viewpoint
