import CodecRegistry.Codec.Commands
import CodecRegistry.Codec.Entries
import CodecRegistry.Codec.Maps
import CodecRegistry.Codec.Packed
import CodecRegistry.Codec.Responses
import CodecRegistry.Codec.Transactions
import CodecRegistry.Declaration

/-! The codecs that every registry has. -/

namespace CodecRegistry

open Codec

/-- In the order in which a start registers them. -/
def Declaration.builtIn : List Declaration := [
  .ofCodec Maps.codec,
  .ofCodec Addresses.codec,
  .ofCodec Transactions.codec,
  .ofFactory Packed.implementation Packed.codec,
  .ofCodec Successes.codec,
  .ofCodec Failures.codec,
  .ofCodec Ignored.codec,
  .ofFactory Commands.implementation Commands.codec,
  .ofCodec ImmortalEntries.codec,
  .ofCodec MortalEntries.codec,
  .ofCodec Keys.codec]

end CodecRegistry
