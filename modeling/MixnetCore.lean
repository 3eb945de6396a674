import MixnetCore.Basic
import MixnetCore.Env
import MixnetCore.Stores
import MixnetCore.Sessions
import MixnetCore.Cover
import MixnetCore.Engine
import MixnetCore.Run
import MixnetCore.Proofs.Frame
import MixnetCore.Proofs.Slots
import MixnetCore.Proofs.Post
import MixnetCore.Proofs.Handle
import MixnetCore.Proofs.Bounds
import MixnetCore.Proofs.Invalidation
import MixnetCore.Proofs.Noninterference
import MixnetCore.Proofs.Replay
import MixnetCore.Proofs.Keys
import MixnetCore.Proofs.Authored
import MixnetCore.Proofs.Messages
import MixnetCore.Proofs.Lifecycle
import MixnetCore.Proofs.Filters
import MixnetCore.Proofs.Forwarding
