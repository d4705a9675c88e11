import FeedSieve.Main
import FeedSieve.Tweet.Printer
import FeedSieve.Proofs.Command.Loading
import FeedSieve.Proofs.Command.Pipe
import FeedSieve.Proofs.Rule.Language
import FeedSieve.Proofs.Rule.RoundTrip
import FeedSieve.Proofs.Rule.Source
import FeedSieve.Proofs.Sieve.Applied
import FeedSieve.Proofs.Sieve.Asking
import FeedSieve.Proofs.Sieve.Calls
import FeedSieve.Proofs.Sieve.Documented
import FeedSieve.Proofs.Sieve.InlineKeyword
import FeedSieve.Proofs.Sieve.LifeCycle
import FeedSieve.Proofs.Sieve.Outline
import FeedSieve.Proofs.Tweet.Accepted
import FeedSieve.Proofs.Tweet.Present
import FeedSieve.Proofs.Tweet.RoundTrip
import FeedSieve.Proofs.Wire.Rearranged
import FeedSieve.Proofs.Sieve.Naming
import FeedSieve.Proofs.Sieve.Unordered
import FeedSieve.Proofs.Wire.Site
import FeedSieve.Proofs.Wire.Places
import FeedSieve.Proofs.Decimal.Sign
import FeedSieve.Proofs.Rule.HashtagCount
import FeedSieve.Proofs.Sieve.HashtagNumber
import FeedSieve.Proofs.Sieve.InlineCount
import FeedSieve.Proofs.Rule.InlineRoundTrip
import FeedSieve.Proofs.Rule.Built
import FeedSieve.Proofs.Rule.KeywordArgument
import FeedSieve.Proofs.Sieve.Opposites
