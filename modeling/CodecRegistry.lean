import CodecRegistry.Cancellation
import CodecRegistry.Codec.Records
import CodecRegistry.Configuration.Document
import CodecRegistry.Text.Hex
import CodecRegistry.Identifier
import CodecRegistry.Registry
import CodecRegistry.Standalone
import CodecRegistry.Proofs.Varint
import CodecRegistry.Proofs.Scalar
import CodecRegistry.Proofs.Shortest
import CodecRegistry.Proofs.Program
import CodecRegistry.Proofs.Frame
import CodecRegistry.Proofs.Payload
import CodecRegistry.Proofs.Outcome
import CodecRegistry.Proofs.Primitive
import CodecRegistry.Proofs.Composition
import CodecRegistry.Proofs.Locality
import CodecRegistry.Proofs.Comparison
import CodecRegistry.Proofs.Loading
import CodecRegistry.Proofs.Start
import CodecRegistry.Proofs.BuiltIn
import CodecRegistry.Proofs.Travel
import CodecRegistry.Proofs.RoundTrip
import CodecRegistry.Proofs.Consistency
import CodecRegistry.Proofs.History
import CodecRegistry.Proofs.Removal
import CodecRegistry.Proofs.Loaded
import CodecRegistry.Proofs.Extension
import CodecRegistry.Proofs.Unextended
import CodecRegistry.Proofs.Refusal
import CodecRegistry.Proofs.Normal
import CodecRegistry.Proofs.Contribution
import CodecRegistry.Proofs.Assembly
import CodecRegistry.Proofs.Entries
import CodecRegistry.Proofs.Permutation
import CodecRegistry.Proofs.Growth
import CodecRegistry.Proofs.Lookup
import CodecRegistry.Proofs.Standalone
import CodecRegistry.Proofs.Parts
import CodecRegistry.Proofs.Token
import CodecRegistry.Proofs.Hops
import CodecRegistry.Proofs.Exchange
import CodecRegistry.Proofs.Plugins
import CodecRegistry.Proofs.Records
import CodecRegistry.Proofs.Replay
import CodecRegistry.Proofs.Grammar
import CodecRegistry.Proofs.Guarded
import CodecRegistry.Proofs.Descent
import CodecRegistry.Proofs.Minimal
import CodecRegistry.Proofs.Header
import CodecRegistry.Proofs.Fragment
import CodecRegistry.Proofs.Declared
import CodecRegistry.Proofs.Registration
import CodecRegistry.Proofs.Padded
import CodecRegistry.Proofs.Rounds
import CodecRegistry.Proofs.Denotation
import CodecRegistry.Proofs.Hash
import CodecRegistry.Proofs.Halting
