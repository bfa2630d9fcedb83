import PumpClient.Sdk.Versions
import PumpClient.Sdk.Migration
import PumpClient.Sdk.Sweep
import PumpClient.Sdk.SingleHop
import PumpClient.Sdk.CurveRuns
import PumpClient.Math.BondingCurve.Bracket
import PumpClient.Machine.Chain
import PumpClient.Sdk.MultiHop
import PumpClient.Sdk.Routes
import PumpClient.Sdk.RoundTrip
import PumpClient.AsyncClient
import PumpClient.AsyncClient.Buyback
import PumpClient.Math.BondingCurve.Splitting
import PumpClient.Sdk.TokenOut
import PumpClient.Math.BondingCurve.TokenOut
import PumpClient.Math.BondingCurve.Totality
import PumpClient.AsyncClient.Buildable
import PumpClient.AsyncClient.Snapshot
import PumpClient.Borsh.Codec
import PumpClient.Borsh.Layout
import PumpClient.State.Layout
import PumpClient.AccountWrapper
import PumpClient.AccountWrapper.FeeConfig
import PumpClient.AsyncClient.Discovery
import PumpClient.AsyncClient.DiscoveredRoutes
import PumpClient.AsyncClient.SwapsFrom
import PumpClient.Math.Fees.Accounting
import PumpClient.Math.Amm.Bracket
import PumpClient.Math.BondingCurve.Monotone
import PumpClient.Math.Monotone
import PumpClient.Math.SellInverse
import PumpClient.Math.MarketCap
import PumpClient.Math.DustFees
import PumpClient.Sdk.Slippage
import PumpClient.Sdk.PumpQuote
import PumpClient.Sdk.Preludes
import PumpClient.Sdk.ZeroQuote
import PumpClient.Sdk.CurveTiers
import PumpClient.Sdk.CurveLedger
import PumpClient.Sdk.PoolRuns
import PumpClient.Sdk.PoolSweeps
import PumpClient.Math.SyntheticMigration
import PumpClient.Sdk.Graduation
import PumpClient.Sdk.Totality
import PumpClient.AsyncClient.CurveQuote
import PumpClient.AsyncClient.CurveBuilds
import PumpClient.AsyncClient.OneHop
import PumpClient.AsyncClient.PumpQuoteCreate
import PumpClient.Sdk.DirectTrades
import PumpClient.AsyncClient.Totality
import PumpClient.AsyncClient.PricedSwap
import PumpClient.AsyncClient.Launches
import PumpClient.AccountWrapper.WellFormed
import PumpClient.Sdk.TradeRequests
import PumpClient.Sdk.Coins
